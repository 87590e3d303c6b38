import ZepGpu.Vpn.InviteCapacity

namespace ZepGpu
namespace Vpn

open Foundation Rooms List

/-!
# The addresses of a network

A join takes the lowest address that is free among the peers it has read, and
commits its peer later.  No constraint of the table keeps two peers of a network
from one address, or a user from two peers.  What keeps them apart is that the
checks of the join still pass when it commits.  Leaving only takes peers away.
-/

/-! ## Peers apart -/

/-- Two peers of a network differ in address and user. -/
def Apart (left right : VpnPeer) : Prop :=
  left.vpnNetworkId = right.vpnNetworkId -> left.vpnIp ≠ right.vpnIp ∧ left.userId ≠ right.userId

/-- No two peers of a network share an address, and every address is of a host. -/
structure Distinct (tables : Tables) : Prop where
  apart : tables.peers.Pairwise Apart
  hosts : ∀ peer, peer ∈ tables.peers -> ∃ network net,
    tables.networks.get? peer.vpnNetworkId = some network ∧ network.cidr = some net ∧
      peer.vpnIp ∈ net.hosts

/-- The checks that a join has made pass again when it commits its peer. -/
def Phase.ChecksAgain (tables : Tables) (request : JoinRequest) (event : Event) : Phase -> Prop
  | .placed _ network vpnIp =>
    (tables.insertPeer (newPeer request event network vpnIp)).isSome = true ->
      tables.currentUserPeer request.userId network.id = none ∧
        vpnIp ∉ (tables.peersOf network.id).map VpnPeer.vpnIp
  | _ => True

/-- A step that commits a peer finds the checks of the join still true. -/
def ChecksAgain (state : State) (event : Event) : Prop :=
  ∀ request phase, state.sessions[event.index]? = some ⟨.join request, phase⟩ ->
    phase.ChecksAgain state.tables request event

theorem checksAgain_iff {state : State} {event : Event} {request : JoinRequest} {phase : Phase}
    (found : state.sessions[event.index]? = some ⟨.join request, phase⟩) :
    ChecksAgain state event ↔ phase.ChecksAgain state.tables request event := by
  constructor
  · intro checks
    exact checks request phase found
  · intro checks other elsewhere same
    rw [found] at same
    cases same
    exact checks

instance Phase.decidableChecksAgain {tables : Tables} {request : JoinRequest} {event : Event} :
    (phase : Phase) -> Decidable (phase.ChecksAgain tables request event)
  | .placed _ network vpnIp => inferInstanceAs (Decidable (
      (tables.insertPeer (newPeer request event network vpnIp)).isSome = true ->
        tables.currentUserPeer request.userId network.id = none ∧
          vpnIp ∉ (tables.peersOf network.id).map VpnPeer.vpnIp))
  | .joined _ _ _ | .waiting | .refused _ | .invited _ | .located _ _ | .screened _ _
  | .surveyed _ _ _ | .failed _ _ _ | .departing _ | .departingMember _ | .leaving _ | .left =>
    inferInstanceAs (Decidable True)

instance {state : State} {event : Event} : Decidable (ChecksAgain state event) :=
  match found : state.sessions[event.index]? with
  | some ⟨.join _, _⟩ => decidable_of_iff' _ (checksAgain_iff found)
  | some ⟨.leave _, _⟩ | none => isTrue (fun _ _ other => by
      rw [found] at other
      cases other)

section Tables

variable {tables : Tables} {peer : VpnPeer}

theorem checks_iff {userId networkId : Uuid} {vpnIp : Nat} :
    (tables.currentUserPeer userId networkId = none ∧
        vpnIp ∉ (tables.peersOf networkId).map VpnPeer.vpnIp) ↔
      ∀ old, old ∈ tables.peers -> old.vpnNetworkId = networkId ->
        old.vpnIp ≠ vpnIp ∧ old.userId ≠ userId := by
  unfold Tables.currentUserPeer Tables.peersOf
  rw [find?_eq_none, mem_map]
  constructor
  · rintro ⟨users, addresses⟩ old member same
    have inside : old ∈ tables.peers.filter (fun peer => peer.vpnNetworkId = networkId) :=
      mem_filter.mpr ⟨member, decide_eq_true same⟩
    constructor
    · exact fun address => addresses ⟨old, inside, address⟩
    · exact fun user => users old inside (decide_eq_true user)
  · intro apart
    constructor
    · intro old inside user
      rcases mem_filter.mp inside with ⟨member, same⟩
      exact (apart old member (of_decide_eq_true same)).2 (of_decide_eq_true user)
    · rintro ⟨old, inside, address⟩
      rcases mem_filter.mp inside with ⟨member, same⟩
      exact (apart old member (of_decide_eq_true same)).1 address

theorem distinct_insert (distinct : Distinct tables)
    (host : ∃ network net, tables.networks.get? peer.vpnNetworkId = some network ∧
      network.cidr = some net ∧ peer.vpnIp ∈ net.hosts) :
    Distinct { tables with peers := tables.peers ++ [peer] } ↔
      (tables.currentUserPeer peer.userId peer.vpnNetworkId = none ∧
        peer.vpnIp ∉ (tables.peersOf peer.vpnNetworkId).map VpnPeer.vpnIp) := by
  rw [checks_iff]
  constructor
  · rintro ⟨apart, _⟩ old member same
    dsimp only at apart
    rw [pairwise_append] at apart
    exact apart.2.2 old member peer (mem_singleton_self peer) same
  · intro checks
    constructor
    · refine pairwise_append.mpr ⟨distinct.apart, pairwise_singleton _ _, ?_⟩
      intro old member new isNew same
      rw [mem_singleton.mp isNew] at same ⊢
      exact checks old member same
    · intro other member
      rcases mem_append.mp member with old | new
      · exact distinct.hosts other old
      · rw [mem_singleton.mp new]
        exact host

theorem distinct_delete (distinct : Distinct tables) (id : Uuid) : Distinct (tables.deletePeer id) :=
  ⟨distinct.apart.filter _, fun other member => distinct.hosts other (mem_of_mem_filter member)⟩

theorem distinct_update {id : Uuid} {change : VpnPeer -> VpnPeer}
    (keeps : ∀ old, old ∈ tables.peers -> old.id = id -> (change old).userId = old.userId ∧
      (change old).vpnNetworkId = old.vpnNetworkId ∧ (change old).vpnIp = old.vpnIp)
    (distinct : Distinct tables) : Distinct (tables.updatePeer id change) := by
  have same : ∀ old, old ∈ tables.peers ->
      (if old.id = id then change old else old).userId = old.userId ∧
        (if old.id = id then change old else old).vpnNetworkId = old.vpnNetworkId ∧
        (if old.id = id then change old else old).vpnIp = old.vpnIp := by
    intro old member
    split_ifs with here
    · exact keeps old member here
    · exact ⟨rfl, rfl, rfl⟩
  constructor
  · rw [Tables.updatePeer, pairwise_map]
    refine distinct.apart.imp_of_mem ?_
    intro left right isLeft isRight apart
    unfold Apart
    rw [(same left isLeft).1, (same left isLeft).2.1, (same left isLeft).2.2,
      (same right isRight).1, (same right isRight).2.1, (same right isRight).2.2]
    exact apart
  · intro other member
    rcases mem_map.mp member with ⟨old, isOld, rfl⟩
    rw [(same old isOld).2.1, (same old isOld).2.2]
    exact distinct.hosts old isOld

end Tables

/-! ## One operation -/

def OwnIds (tables : Tables) : Prop :=
  (tables.peers.map VpnPeer.id).Nodup

/-- The network that a session holds is that of the table, and the address that
it has chosen is one of a host there. -/
def Phase.Located (tables : Tables) : Phase -> Prop
  | .located _ network => tables.networks.get? network.id = some network
  | .screened _ network => tables.networks.get? network.id = some network
  | .surveyed _ network _ => tables.networks.get? network.id = some network
  | .placed _ network vpnIp => tables.networks.get? network.id = some network ∧
      ∃ net, network.cidr = some net ∧ vpnIp ∈ net.hosts
  | _ => True

/-- Networks are found under their identifiers, and the sessions hold rows of
the table. -/
structure Settled (state : State) : Prop where
  networks : ∀ id network, state.tables.networks.get? id = some network -> network.id = id
  ids : OwnIds state.tables
  phases : ∀ session, session ∈ state.sessions -> session.phase.Located state.tables

theorem Phase.Located.congr {tables later : Tables} {phase : Phase} (located : phase.Located tables)
    (same : later.networks = tables.networks) : phase.Located later := by
  unfold Phase.Located at located ⊢
  rw [same]
  exact located

/-- What an operation of a session does to the peers: it keeps them apart if
they were, or commits a peer. -/
inductive Moves (state : State) (event : Event) : Tables × Phase -> Prop where
  | keeps {tables : Tables} {later : Phase} (networks : tables.networks = state.tables.networks)
      (ids : OwnIds tables) (distinct : Distinct state.tables -> Distinct tables)
      (checks : ChecksAgain state event) (located : later.Located tables) :
      Moves state event (tables, later)
  | commits {tables : Tables} {later : Phase} (peer : VpnPeer)
      (same : tables = { state.tables with peers := state.tables.peers ++ [peer] })
      (ids : OwnIds tables)
      (host : ∃ network net, state.tables.networks.get? peer.vpnNetworkId = some network ∧
        network.cidr = some net ∧ peer.vpnIp ∈ net.hosts)
      (checks : ChecksAgain state event ↔
        (state.tables.currentUserPeer peer.userId peer.vpnNetworkId = none ∧
          peer.vpnIp ∉ (state.tables.peersOf peer.vpnNetworkId).map VpnPeer.vpnIp))
      (located : later.Located tables) : Moves state event (tables, later)

section Steps

variable {settings : Settings} {state : State} {event : Event} {request : JoinRequest}
  {invite : VpnInvite}

theorem moves_reading {later : Phase} (ids : OwnIds state.tables) (checks : ChecksAgain state event)
    (located : later.Located state.tables) : Moves state event (state.tables, later) :=
  .keeps rfl ids (fun distinct => distinct) checks located

theorem moves_ofExcept {result : Except JoinError Phase} (ids : OwnIds state.tables)
    (checks : ChecksAgain state event)
    (located : ∀ later, result = .ok later -> later.Located state.tables) :
    Moves state event (state.tables, Phase.ofExcept result) := by
  cases result with
  | error error => exact moves_reading ids checks trivial
  | ok later => exact moves_reading ids checks (located later rfl)

theorem located_place {network : VpnNetwork} {used : List Nat} {later : Phase}
    (placed : place invite network used = .ok later)
    (isNetwork : state.tables.networks.get? network.id = some network) :
    later.Located state.tables := by
  rcases place_eq placed with ⟨vpnIp, net, rfl, cidr, host, _⟩
  exact ⟨isNetwork, net, cidr, host⟩

theorem ownIds_insert {tables later : Tables} {peer : VpnPeer} (ids : OwnIds tables)
    (inserted : tables.insertPeer peer = some later) : OwnIds later := by
  have same := insertPeer_eq_some inserted
  unfold Tables.insertPeer at inserted
  split at inserted
  next => cases inserted
  next fresh =>
    rw [same, OwnIds, map_append, map_singleton]
    refine nodup_append.mpr ⟨ids, nodup_singleton _, ?_⟩
    intro id member other isOther taken
    rcases mem_map.mp member with ⟨old, isOld, isId⟩
    apply fresh
    rw [any_eq_true]
    refine ⟨old, isOld, ?_⟩
    rw [isId, taken, mem_singleton.mp isOther, decide_eq_true rfl, Bool.true_or]

theorem moves_placed {network : VpnNetwork} {vpnIp : Nat} (ids : OwnIds state.tables)
    (found : state.sessions[event.index]? = some ⟨.join request, .placed invite network vpnIp⟩)
    (located : Phase.Located state.tables (.placed invite network vpnIp)) :
    Moves state event
      (performJoin settings state.tables request event (.placed invite network vpnIp)) := by
  have unfolded := checksAgain_iff found
  rw [Phase.ChecksAgain] at unfolded
  rw [performJoin]
  cases inserted : state.tables.insertPeer (newPeer request event network vpnIp) with
  | none =>
    rw [inserted] at unfolded
    refine moves_reading ids (unfolded.mpr ?_) trivial
    intro impossible
    cases impossible
  | some tables =>
    rw [inserted] at unfolded
    rcases located with ⟨isNetwork, net, cidr, host⟩
    refine .commits (newPeer request event network vpnIp) (insertPeer_eq_some inserted)
      (ownIds_insert ids inserted) ⟨network, net, isNetwork, cidr, host⟩ ?_ trivial
    rw [unfolded]
    exact ⟨fun checks => checks rfl, fun checks _ => checks⟩

theorem provisionPeer_keeps {operation : Provision} {old : Option VpnPeer} {peer : VpnPeer}
    (made : provisionPeer settings request event operation old = .ok peer) :
    ∃ row, old = some row ∧ peer.id = row.id ∧ peer.userId = row.userId ∧
      peer.vpnNetworkId = row.vpnNetworkId ∧ peer.vpnIp = row.vpnIp := by
  unfold provisionPeer at made
  split at made
  all_goals first
    | cases made
      exact ⟨_, rfl, rfl, rfl, rfl, rfl⟩
    | cases made
    | split_ifs at made
      cases made
      exact ⟨_, rfl, rfl, rfl, rfl, rfl⟩

theorem eq_of_peer? {tables : Tables} (ids : OwnIds tables) {id : Uuid} {row other : VpnPeer}
    (found : tables.peer? id = some row) (member : other ∈ tables.peers) (same : other.id = id) :
    other = row := by
  have test := find?_some found
  have isRow : row.id = id := of_decide_eq_true test
  exact inj_on_of_nodup_map ids member (mem_of_find?_eq_some found) (same.trans isRow.symm)

theorem moves_joined {peerId : Uuid} {operation : Provision} {rest : List Provision}
    (ids : OwnIds state.tables)
    (found : state.sessions[event.index]? =
      some ⟨.join request, .joined invite peerId (operation :: rest)⟩) :
    Moves state event
      (performJoin settings state.tables request event (.joined invite peerId (operation :: rest))) := by
  have checks : ChecksAgain state event := (checksAgain_iff found).mpr trivial
  rw [performJoin, provision]
  by_cases use : operation = .useInvite
  · rw [if_pos use]
    unfold useInvite
    split_ifs with valid
    · split
      · exact moves_reading ids checks trivial
      · exact .keeps rfl ids (fun distinct => ⟨distinct.apart, distinct.hosts⟩) checks trivial
    · exact moves_reading ids checks trivial
  · rw [if_neg use]
    cases result : provisionPeer settings request event operation (state.tables.peer? peerId) with
    | error error => exact moves_reading ids checks trivial
    | ok peer =>
      rcases provisionPeer_keeps result with ⟨row, isRow, id, user, network, address⟩
      have same : ∀ old, old ∈ state.tables.peers -> old.id = peerId -> old = row :=
        fun old member isPeer => eq_of_peer? ids isRow member isPeer
      refine .keeps rfl ?_ ?_ checks trivial
      · unfold OwnIds Tables.updatePeer
        rw [map_map]
        have ids' : state.tables.peers.map (VpnPeer.id ∘ fun old =>
            if old.id = peerId then peer else old) = state.tables.peers.map VpnPeer.id := by
          apply map_congr_left
          intro old member
          rw [Function.comp_apply]
          split_ifs with here
          · rw [same old member here, id]
          · rfl
        rw [ids']
        exact ids
      · intro distinct
        refine distinct_update ?_ distinct
        intro old member here
        rw [same old member here]
        exact ⟨user, network, address⟩

theorem moves_leave {leave : LeaveRequest} {phase : Phase} (ids : OwnIds state.tables)
    (located : phase.Located state.tables)
    (found : state.sessions[event.index]? = some ⟨.leave leave, phase⟩) :
    Moves state event (performLeave state.tables leave phase) := by
  have checks : ChecksAgain state event := by
    intro request other same
    rw [found] at same
    cases same
  cases phase with
  | waiting =>
    rw [performLeave]
    split
    all_goals exact moves_reading ids checks trivial
  | departing network =>
    rw [performLeave]
    split_ifs
    · exact moves_reading ids checks trivial
    · split
      all_goals exact moves_reading ids checks trivial
  | departingMember network =>
    rw [performLeave]
    split
    · exact moves_reading ids checks trivial
    · exact moves_reading ids checks trivial
    · split_ifs
      · exact moves_reading ids checks trivial
      · exact moves_reading ids checks trivial
    · exact moves_reading ids checks trivial
  | leaving peerId =>
    rw [performLeave]
    split
    · exact moves_reading ids checks trivial
    · refine .keeps rfl ?_ (fun distinct => distinct_delete distinct peerId) checks trivial
      exact ids.sublist (filter_sublist.map _)
  | refused error => exact moves_reading ids checks located
  | invited invite => exact moves_reading ids checks located
  | located invite network => exact moves_reading ids checks located
  | screened invite network => exact moves_reading ids checks located
  | surveyed invite network used => exact moves_reading ids checks located
  | placed invite network vpnIp => exact moves_reading ids checks located
  | joined invite peerId rest => exact moves_reading ids checks located
  | failed invite peerId error => exact moves_reading ids checks located
  | left => exact moves_reading ids checks located

theorem moves (settled : Settled state) {session : Session}
    (found : state.sessions[event.index]? = some session) :
    Moves state event (perform settings state.tables event session) := by
  have located := settled.phases session (mem_of_getElem? found)
  have ids := settled.ids
  rcases session with ⟨request, phase⟩
  cases request with
  | leave request => exact moves_leave ids located found
  | join request =>
    have unfolded := checksAgain_iff found
    rw [perform]
    cases phase with
    | waiting =>
      refine moves_ofExcept ids (unfolded.mpr trivial) ?_
      intro later read
      unfold readInvite at read
      split at read
      · cases read
      · cases read
      · rcases raiseIf_bind_eq_ok.mp read with ⟨_, read⟩
        rcases raiseIf_bind_eq_ok.mp read with ⟨_, read⟩
        rcases raiseIf_bind_eq_ok.mp read with ⟨_, read⟩
        cases read
        trivial
      · rcases raiseIf_bind_eq_ok.mp read with ⟨_, read⟩
        cases read
        trivial
    | invited invite =>
      refine moves_ofExcept ids (unfolded.mpr trivial) ?_
      intro later read
      rcases readNetwork_eq read with ⟨network, rfl, isNetwork⟩
      rw [Phase.Located, settled.networks _ _ isNetwork]
      exact isNetwork
    | located invite network =>
      refine moves_ofExcept ids (unfolded.mpr trivial) ?_
      intro later read
      rcases readMembers_eq read with rfl | rfl
      · exact located
      · exact located
    | screened invite network =>
      exact moves_ofExcept ids (unfolded.mpr trivial)
        (fun later placed => located_place placed located)
    | surveyed invite network used =>
      exact moves_ofExcept ids (unfolded.mpr trivial)
        (fun later read => located_place (readKey_eq read) located)
    | placed invite network vpnIp => exact moves_placed ids found located
    | joined invite peerId rest =>
      cases rest with
      | nil => exact moves_reading ids (unfolded.mpr trivial) located
      | cons operation rest => exact moves_joined ids found
    | refused error => exact moves_reading ids (unfolded.mpr trivial) located
    | failed invite peerId error => exact moves_reading ids (unfolded.mpr trivial) located
    | departing network => exact moves_reading ids (unfolded.mpr trivial) located
    | departingMember network => exact moves_reading ids (unfolded.mpr trivial) located
    | leaving peerId => exact moves_reading ids (unfolded.mpr trivial) located
    | left => exact moves_reading ids (unfolded.mpr trivial) located

/-! ## One event -/

theorem settled_of_moves (settled : Settled state) {session : Session} {tables : Tables} {later : Phase}
    (networks : tables.networks = state.tables.networks) (ids : OwnIds tables)
    (located : later.Located tables) :
    Settled { tables := tables
              sessions := state.sessions.set event.index { session with phase := later } } := by
  constructor
  · intro id network isNetwork
    dsimp only at isNetwork
    rw [networks] at isNetwork
    exact settled.networks id network isNetwork
  · exact ids
  · intro other member
    rcases mem_or_eq_of_mem_set member with old | rfl
    · exact (settled.phases other old).congr networks
    · exact located

theorem settled_step (settled : Settled state) : Settled (state.step settings event) := by
  unfold State.step
  split
  next => exact settled
  next session found =>
    have moved := @moves settings _ event settled _ found
    dsimp only
    generalize perform settings state.tables event session = result at moved ⊢
    cases moved with
    | keeps networks ids distinct checks located => exact settled_of_moves settled networks ids located
    | commits peer same ids host checks located =>
      exact settled_of_moves settled (by rw [same]) ids located

theorem distinct_step (settled : Settled state) (distinct : Distinct state.tables) :
    Distinct (state.step settings event).tables ↔ ChecksAgain state event := by
  unfold State.step
  split
  next none =>
    refine iff_of_true distinct ?_
    intro request phase found
    rw [none] at found
    cases found
  next session found =>
    have moved := @moves settings _ event settled _ found
    dsimp only
    generalize perform settings state.tables event session = result at moved ⊢
    cases moved with
    | keeps networks ids kept checks located => exact iff_of_true (kept distinct) checks
    | commits peer same ids host checks located =>
      rw [checks, same]
      exact distinct_insert distinct host

/-! ## Runs -/

/-- The peers of every network are apart throughout a run of joins and leaves
exactly when the checks of every join pass again at its commit. -/
theorem addresses_distinct_throughout (settings : Settings) {tables : Tables}
    (networks : ∀ id network, tables.networks.get? id = some network -> network.id = id)
    (ids : OwnIds tables) (distinct : Distinct tables) (requests : List Request)
    (events : List Event) :
    (∀ front back, events = front ++ back ->
      Distinct (front.foldl (State.step settings) (State.start tables requests)).tables) ↔
      Meets (State.step settings) ChecksAgain (State.start tables requests) events := by
  have settled : Settled (State.start tables requests) := by
    refine ⟨networks, ids, ?_⟩
    intro session member
    rw [phase_start member]
    trivial
  exact @meets_iff_throughout _ _ _ _ _ _ Settled (fun state => Distinct state.tables)
    (fun _ => True) (fun _ _ settled _ => settled_step settled)
    (fun _ _ settled distinct _ => distinct_step settled distinct) settled distinct
    (fun _ _ => trivial)

end Steps

namespace Overlap

/-- Two joins of which the second one begins when the first one has committed get two
addresses. -/
theorem addresses_distinct_at_counted :
    (∀ front back, countedEvents = front ++ back ->
      Distinct (front.foldl (State.step settings) (State.start roomyTables requests)).tables) ∧
      afterCounted.tables.peers.map VpnPeer.vpnIp = [10 * 2 ^ 24 + 1, 10 * 2 ^ 24 + 2] := by
  have networks : ∀ id network, roomyTables.networks.get? id = some network ->
      network.id = id := by
    intro id other isOther
    by_cases same : id = 5
    · rw [same, roomyTables, tables, Dict.get?_set_self] at isOther
      cases isOther
      exact same.symm
    · rw [roomyTables, tables, Dict.get?_set_of_ne same] at isOther
      cases isOther
  have distinct : Distinct roomyTables :=
    ⟨List.Pairwise.nil, fun peer member => absurd member not_mem_nil⟩
  exact ⟨(addresses_distinct_throughout settings networks nodup_nil distinct requests
    countedEvents).mpr (by decide +kernel), by decide +kernel⟩

theorem after_addresses :
    after.tables.peers.map (fun peer => (peer.vpnNetworkId, peer.vpnIp)) =
      [(5, 10 * 2 ^ 24 + 1), (5, 10 * 2 ^ 24 + 1)] := by
  decide +kernel

end Overlap

/-- Two peers of one network share an address. -/
theorem address_given_twice : ¬ ∀ front back, Overlap.events = front ++ back ->
    Distinct (front.foldl (State.step Overlap.settings)
      (State.start Overlap.tables Overlap.requests)).tables := by
  intro throughout
  have apart := (throughout Overlap.events [] (append_nil _).symm).apart
  have shared := Overlap.after_addresses
  rw [Overlap.after] at shared
  rcases map_eq_cons_iff.mp shared with ⟨first, others, peers, isFirst, shared⟩
  rcases map_eq_cons_iff.mp shared with ⟨second, rest, isOthers, isSecond, _⟩
  rw [peers, isOthers, pairwise_cons] at apart
  have same := isFirst.trans isSecond.symm
  rw [Prod.mk.injEq] at same
  exact (apart.1 second (mem_cons_self ..) same.1).1 same.2

end Vpn
end ZepGpu
