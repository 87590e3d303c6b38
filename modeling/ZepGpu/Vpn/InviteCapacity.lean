import ZepGpu.Foundation.Runs
import ZepGpu.Vpn.Joins

namespace ZepGpu
namespace Vpn

open Foundation Rooms Dict List

/-!
# The uses of an invite

A join reads the invite once, commits its peer, and adds one to the count that
it has read.  Two joins that overlap can both find the last use, and the second
of two counts overwrites the first.

A join that has committed its peer and not yet counted it is pending.  The
count in the table together with the pending joins is the number of peers
admitted exactly as long as every count is added to the count that the table
still holds, and no pending join ends without it.
-/

/-! ## Counting -/

/-- The peer of a join with the invite is committed. -/
def Phase.admitted (code : String) : Phase -> Bool
  | .joined invite _ _ => invite.code = code
  | .failed invite _ _ => invite.code = code
  | _ => false

/-- The peer is committed and the use is not counted. -/
def Phase.pending (code : String) : Phase -> Bool
  | .joined invite _ rest => invite.code = code ∧ Provision.useInvite ∈ rest
  | _ => false

def State.admitted (state : State) (code : String) : Nat :=
  state.sessions.countP (fun session => session.phase.admitted code)

def State.pending (state : State) (code : String) : Nat :=
  state.sessions.countP (fun session => session.phase.pending code)

/-- No invite admits more peers than it has uses, and its count is that of the
peers admitted by joins that are not pending. -/
def InviteCounts (state : State) : Prop :=
  ∀ code invite, state.tables.invites.get? code = some invite ->
    state.admitted code ≤ invite.maxUses.toNat ∧
      invite.usedCount + state.pending code = state.admitted code

/-- A peer is committed only while the invite has a use that is neither counted
nor pending.  A use is counted before the invite expires, and onto the count
that the table holds.  Nothing fails in between. -/
def Phase.KeepsCount (settings : Settings) (state : State) (request : JoinRequest) (event : Event) :
    Phase -> Prop
  | .placed invite network vpnIp =>
    (state.tables.insertPeer (newPeer request event network vpnIp)).isSome = true ->
      ∀ row, state.tables.invites.get? invite.code = some row ->
        row.usedCount + state.pending invite.code < row.maxUses
  | .joined invite _ (.useInvite :: _) =>
    invite.isValid event.now = true ∧
      ∀ row, state.tables.invites.get? invite.code = some row ->
        row.usedCount = invite.usedCount
  | .joined _ peerId (operation :: rest) =>
    Provision.useInvite ∈ rest ->
      ∃ peer, provisionPeer settings request event operation (state.tables.peer? peerId) =
        .ok peer
  | _ => True

/-- A step that counts a use finds the invite as the join has read it. -/
def KeepsCount (settings : Settings) (state : State) (event : Event) : Prop :=
  ∀ request phase, state.sessions[event.index]? = some ⟨.join request, phase⟩ ->
    phase.KeepsCount settings state request event

theorem keepsCount_iff {settings : Settings} {state : State} {event : Event} {request : JoinRequest}
    {phase : Phase} (found : state.sessions[event.index]? = some ⟨.join request, phase⟩) :
    KeepsCount settings state event ↔ phase.KeepsCount settings state request event := by
  constructor
  · intro keeps
    exact keeps request phase found
  · intro keeps other elsewhere same
    rw [found] at same
    cases same
    exact keeps

theorem exists_ok_iff {result : Except JoinError VpnPeer} :
    (∃ peer, result = .ok peer) ↔ result.toOption.isSome = true := by
  cases result with
  | ok peer => exact iff_of_true ⟨peer, rfl⟩ rfl
  | error error => exact iff_of_false (by rintro ⟨_, ⟨⟩⟩) Bool.false_ne_true

instance {result : Except JoinError VpnPeer} : Decidable (∃ peer, result = .ok peer) :=
  decidable_of_iff' _ exists_ok_iff

instance Phase.decidableKeepsCount {settings : Settings} {state : State} {request : JoinRequest}
    {event : Event} : (phase : Phase) -> Decidable (phase.KeepsCount settings state request event)
  | .placed invite network vpnIp => inferInstanceAs (Decidable (
      (state.tables.insertPeer (newPeer request event network vpnIp)).isSome = true ->
        ∀ row, state.tables.invites.get? invite.code = some row ->
          row.usedCount + state.pending invite.code < row.maxUses))
  | .joined invite peerId (operation :: rest) =>
    match operation with
    | .useInvite => inferInstanceAs (Decidable (
        invite.isValid event.now = true ∧
          ∀ row, state.tables.invites.get? invite.code = some row ->
            row.usedCount = invite.usedCount))
    | .refresh | .setMode | .setAuthToken | .reload | .setExpiry | .findPeer =>
      inferInstanceAs (Decidable (Provision.useInvite ∈ rest -> ∃ peer,
        provisionPeer settings request event _ (state.tables.peer? peerId) = .ok peer))
  | .joined _ _ [] | .waiting | .refused _ | .invited _ | .located _ _ | .screened _ _
  | .surveyed _ _ _ | .failed _ _ _ | .departing _ | .departingMember _ | .leaving _ | .left =>
    inferInstanceAs (Decidable True)

instance {settings : Settings} {state : State} {event : Event} :
    Decidable (KeepsCount settings state event) :=
  match found : state.sessions[event.index]? with
  | some ⟨.join _, _⟩ => decidable_of_iff' _ (keepsCount_iff found)
  | some ⟨.leave _, _⟩ | none => isTrue (fun _ _ other => by
      rw [found] at other
      cases other)

/-! ## One operation -/

/-- The invite that a session holds is in the table, and its use is counted at
most once. -/
def Phase.Sound (tables : Tables) : Phase -> Prop
  | .invited invite => (tables.invites.get? invite.code).isSome = true
  | .located invite _ => (tables.invites.get? invite.code).isSome = true
  | .screened invite _ => (tables.invites.get? invite.code).isSome = true
  | .surveyed invite _ _ => (tables.invites.get? invite.code).isSome = true
  | .placed invite _ _ => (tables.invites.get? invite.code).isSome = true
  | .joined invite _ rest =>
    (tables.invites.get? invite.code).isSome = true ∧ rest.count .useInvite ≤ 1
  | _ => True

/-- Invites are stored under their codes, and every session fits the tables. -/
structure Sound (state : State) : Prop where
  codes : ∀ code invite, state.tables.invites.get? code = some invite -> invite.code = code
  phases : ∀ session, session ∈ state.sessions -> session.phase.Sound state.tables

theorem Phase.Sound.mono {tables later : Tables} {phase : Phase} (sound : phase.Sound tables)
    (kept : ∀ code, (tables.invites.get? code).isSome = true ->
      (later.invites.get? code).isSome = true) : phase.Sound later := by
  cases phase with
  | invited invite => exact kept _ sound
  | located invite network => exact kept _ sound
  | screened invite network => exact kept _ sound
  | surveyed invite network used => exact kept _ sound
  | placed invite network vpnIp => exact kept _ sound
  | joined invite peerId rest => exact ⟨kept _ sound.1, sound.2⟩
  | waiting => trivial
  | refused error => trivial
  | failed invite peerId error => trivial
  | departing network => trivial
  | departingMember network => trivial
  | leaving peerId => trivial
  | left => trivial

section Operations

variable {settings : Settings} {tables : Tables} {request : JoinRequest} {event : Event}
  {invite : VpnInvite} {network : VpnNetwork}

theorem readInvite_eq (codes : ∀ code invite, tables.invites.get? code = some invite ->
      invite.code = code) {phase : Phase} (read : readInvite tables request event = .ok phase) :
    ∃ invite, phase = .invited invite ∧ (tables.invites.get? invite.code).isSome = true := by
  unfold readInvite at read
  split at read
  · cases read
  · cases read
  next found =>
    rcases raiseIf_bind_eq_ok.mp read with ⟨_, read⟩
    rcases raiseIf_bind_eq_ok.mp read with ⟨_, read⟩
    rcases raiseIf_bind_eq_ok.mp read with ⟨_, read⟩
    cases read
    refine ⟨_, rfl, ?_⟩
    rw [codes _ _ found, found, Option.isSome_some]
  next found =>
    rcases raiseIf_bind_eq_ok.mp read with ⟨_, read⟩
    cases read
    refine ⟨_, rfl, ?_⟩
    rw [codes _ _ found, found, Option.isSome_some]

theorem readNetwork_eq {phase : Phase} (read : readNetwork tables request invite = .ok phase) :
    ∃ network, phase = .located invite network ∧
      tables.networks.get? invite.vpnNetworkId = some network := by
  unfold readNetwork at read
  split at read
  · cases read
  · cases read
  next found =>
    cases read
    exact ⟨_, rfl, found⟩

theorem readMembers_eq {phase : Phase} (read : readMembers tables request invite network = .ok phase) :
    phase = .screened invite network ∨
      phase = .surveyed invite network ((tables.peersOf network.id).map VpnPeer.vpnIp) := by
  unfold readMembers at read
  split at read
  · rcases raiseIf_bind_eq_ok.mp read with ⟨_, read⟩
    cases read
    exact Or.inl rfl
  · rcases raiseIf_bind_eq_ok.mp read with ⟨_, read⟩
    cases read
    exact Or.inr rfl

theorem place_eq {used : List Nat} {phase : Phase} (placed : place invite network used = .ok phase) :
    ∃ vpnIp net, phase = .placed invite network vpnIp ∧ network.cidr = some net ∧
      vpnIp ∈ net.hosts ∧ vpnIp ∉ used := by
  rcases bind_eq_ok.mp placed with ⟨vpnIp, allocated, placed⟩
  cases placed
  rcases allocateVpnIp_eq_ok allocated with ⟨net, cidr, host, fresh⟩
  exact ⟨vpnIp, net, rfl, cidr, host, fresh⟩

theorem readKey_eq {used : List Nat} {phase : Phase}
    (read : readKey tables request invite network used = .ok phase) :
    place invite network used = .ok phase :=
  (raiseIf_bind_eq_ok.mp read).2

end Operations

/-- What an operation of a session does to the counts: nothing; a peer is
committed; a use is counted; or a pending join ends without being counted. -/
inductive Performs (settings : Settings) (state : State) (event : Event) (phase : Phase) :
    Tables × Phase -> Prop where
  | quiet {tables : Tables} {later : Phase} (invites : tables.invites = state.tables.invites)
      (same : ∀ code, later.admitted code = phase.admitted code ∧
        later.pending code = phase.pending code)
      (keeps : KeepsCount settings state event) (sound : later.Sound tables) :
      Performs settings state event phase (tables, later)
  | admits {tables : Tables} {later : Phase} (invite row : VpnInvite)
      (found : state.tables.invites.get? invite.code = some row)
      (invites : tables.invites = state.tables.invites)
      (before : ∀ code, phase.admitted code = false ∧ phase.pending code = false)
      (after : ∀ code, later.admitted code = decide (invite.code = code) ∧
        later.pending code = decide (invite.code = code))
      (keeps : KeepsCount settings state event ↔
        row.usedCount + state.pending invite.code < row.maxUses) (sound : later.Sound tables) :
      Performs settings state event phase (tables, later)
  | counts {tables : Tables} {later : Phase} (invite row : VpnInvite)
      (found : state.tables.invites.get? invite.code = some row)
      (invites : tables.invites =
        state.tables.invites.set invite.code { row with usedCount := invite.usedCount + 1 })
      (admitted : ∀ code, later.admitted code = phase.admitted code)
      (before : ∀ code, phase.pending code = decide (invite.code = code))
      (after : ∀ code, later.pending code = false)
      (keeps : KeepsCount settings state event ↔ row.usedCount = invite.usedCount)
      (sound : later.Sound tables) : Performs settings state event phase (tables, later)
  | lapses {tables : Tables} {later : Phase} (invite row : VpnInvite)
      (found : state.tables.invites.get? invite.code = some row)
      (invites : tables.invites = state.tables.invites)
      (admitted : ∀ code, later.admitted code = phase.admitted code)
      (before : ∀ code, phase.pending code = decide (invite.code = code))
      (after : ∀ code, later.pending code = false)
      (keeps : ¬ KeepsCount settings state event) (sound : later.Sound tables) :
      Performs settings state event phase (tables, later)

section Steps

variable {settings : Settings} {state : State} {event : Event} {request : JoinRequest}
  {invite : VpnInvite}

/-- A phase before the commit of the peer, or of a join that was refused. -/
def Phase.Quiet (phase : Phase) : Prop :=
  ∀ code, phase.admitted code = false ∧ phase.pending code = false

theorem insertPeer_eq_some {tables later : Tables} {peer : VpnPeer}
    (inserted : tables.insertPeer peer = some later) :
    later = { tables with peers := tables.peers ++ [peer] } := by
  unfold Tables.insertPeer at inserted
  split at inserted
  · cases inserted
  · cases inserted
    rfl

theorem performs_leave {leave : LeaveRequest} {phase : Phase} (isSound : phase.Sound state.tables)
    (found : state.sessions[event.index]? = some ⟨.leave leave, phase⟩) :
    Performs settings state event phase (performLeave state.tables leave phase) := by
  have keeps : KeepsCount settings state event := by
    intro request other same
    rw [found] at same
    cases same
  cases phase with
  | waiting =>
    rw [performLeave]
    split
    all_goals exact .quiet rfl (fun _ => ⟨rfl, rfl⟩) keeps trivial
  | departing network =>
    rw [performLeave]
    split_ifs
    · exact .quiet rfl (fun _ => ⟨rfl, rfl⟩) keeps trivial
    · split
      all_goals exact .quiet rfl (fun _ => ⟨rfl, rfl⟩) keeps trivial
  | departingMember network =>
    rw [performLeave]
    split
    · exact .quiet rfl (fun _ => ⟨rfl, rfl⟩) keeps trivial
    · exact .quiet rfl (fun _ => ⟨rfl, rfl⟩) keeps trivial
    · split_ifs
      · exact .quiet rfl (fun _ => ⟨rfl, rfl⟩) keeps trivial
      · exact .quiet rfl (fun _ => ⟨rfl, rfl⟩) keeps trivial
    · exact .quiet rfl (fun _ => ⟨rfl, rfl⟩) keeps trivial
  | leaving peerId =>
    rw [performLeave]
    split
    · exact .quiet rfl (fun _ => ⟨rfl, rfl⟩) keeps trivial
    · exact .quiet rfl (fun _ => ⟨rfl, rfl⟩) keeps trivial
  | refused error => exact .quiet rfl (fun _ => ⟨rfl, rfl⟩) keeps isSound
  | invited invite => exact .quiet rfl (fun _ => ⟨rfl, rfl⟩) keeps isSound
  | located invite network => exact .quiet rfl (fun _ => ⟨rfl, rfl⟩) keeps isSound
  | screened invite network => exact .quiet rfl (fun _ => ⟨rfl, rfl⟩) keeps isSound
  | surveyed invite network used => exact .quiet rfl (fun _ => ⟨rfl, rfl⟩) keeps isSound
  | placed invite network vpnIp => exact .quiet rfl (fun _ => ⟨rfl, rfl⟩) keeps isSound
  | joined invite peerId rest => exact .quiet rfl (fun _ => ⟨rfl, rfl⟩) keeps isSound
  | failed invite peerId error => exact .quiet rfl (fun _ => ⟨rfl, rfl⟩) keeps isSound
  | left => exact .quiet rfl (fun _ => ⟨rfl, rfl⟩) keeps isSound

theorem performs_reading {phase : Phase} {result : Except JoinError Phase} (before : phase.Quiet)
    (after : ∀ later, result = .ok later -> later.Quiet ∧ later.Sound state.tables)
    (keeps : KeepsCount settings state event) :
    Performs settings state event phase (state.tables, Phase.ofExcept result) := by
  cases result with
  | error error =>
    refine .quiet rfl (fun code => ?_) keeps trivial
    rw [(before code).1, (before code).2]
    exact ⟨rfl, rfl⟩
  | ok later =>
    refine .quiet rfl (fun code => ?_) keeps (after later rfl).2
    rw [(before code).1, (before code).2]
    exact (after later rfl).1 code

theorem performs_placing {phase : Phase} {network : VpnNetwork} {used : List Nat}
    {result : Except JoinError Phase} (before : phase.Quiet)
    (known : (state.tables.invites.get? invite.code).isSome = true)
    (places : ∀ later, result = .ok later -> place invite network used = .ok later)
    (keeps : KeepsCount settings state event) :
    Performs settings state event phase (state.tables, Phase.ofExcept result) := by
  refine performs_reading before ?_ keeps
  intro later isLater
  rcases place_eq (places later isLater) with ⟨vpnIp, net, rfl, _⟩
  exact ⟨fun code => ⟨rfl, rfl⟩, known⟩

theorem provisions_useInvite (route : Route) : Provision.useInvite ∈ route.provisions := by
  cases route <;> decide

theorem performs_placed {network : VpnNetwork} {vpnIp : Nat}
    (found : state.sessions[event.index]? = some ⟨.join request, .placed invite network vpnIp⟩)
    (known : (state.tables.invites.get? invite.code).isSome = true) :
    Performs settings state event (.placed invite network vpnIp)
      (performJoin settings state.tables request event (.placed invite network vpnIp)) := by
  rcases Option.isSome_iff_exists.mp known with ⟨row, isRow⟩
  have unfolded := @keepsCount_iff settings _ _ _ _ found
  rw [Phase.KeepsCount] at unfolded
  rw [performJoin]
  cases inserted : state.tables.insertPeer (newPeer request event network vpnIp) with
  | none =>
    rw [inserted] at unfolded
    refine .quiet rfl (fun code => ⟨rfl, rfl⟩) (unfolded.mpr ?_) trivial
    intro impossible
    cases impossible
  | some tables =>
    rw [inserted] at unfolded
    have same := insertPeer_eq_some inserted
    refine .admits invite row isRow (by rw [same]) (fun code => ⟨rfl, rfl⟩) ?_ ?_ ?_
    · intro code
      refine ⟨rfl, ?_⟩
      simp [Phase.pending, provisions_useInvite]
    · rw [unfolded]
      constructor
      · intro keeps
        exact keeps rfl row isRow
      · intro few _ other isOther
        rw [isRow] at isOther
        cases isOther
        exact few
    · rw [same]
      refine ⟨known, ?_⟩
      cases request.route with
      | room => decide
      | network => decide

theorem decide_mem_of_count {operation : Provision} {rest : List Provision}
    (once : (operation :: rest).count .useInvite ≤ 1) (use : operation = .useInvite) :
    Provision.useInvite ∉ rest := by
  rw [use, count_cons_self] at once
  exact count_eq_zero.mp (Nat.le_zero.mp (Nat.le_of_succ_le_succ once))

theorem performs_joined {peerId : Uuid} {operation : Provision} {rest : List Provision}
    (found : state.sessions[event.index]? =
      some ⟨.join request, .joined invite peerId (operation :: rest)⟩)
    (known : (state.tables.invites.get? invite.code).isSome = true)
    (once : (operation :: rest).count .useInvite ≤ 1) :
    Performs settings state event (.joined invite peerId (operation :: rest))
      (performJoin settings state.tables request event (.joined invite peerId (operation :: rest))) := by
  rcases Option.isSome_iff_exists.mp known with ⟨row, isRow⟩
  have unfolded := @keepsCount_iff settings _ _ _ _ found
  have fewer : rest.count .useInvite ≤ 1 := le_trans count_le_count_cons once
  rw [performJoin, provision]
  by_cases use : operation = .useInvite
  · have gone := decide_mem_of_count once use
    subst use
    rw [Phase.KeepsCount] at unfolded
    rw [if_pos rfl, useInvite, isRow]
    have before : ∀ code, (Phase.joined invite peerId (.useInvite :: rest)).pending code =
        decide (invite.code = code) := by
      intro code
      simp [Phase.pending]
    have after : ∀ code (other : VpnInvite), (Phase.joined other peerId rest).pending code =
        false := by
      intro code other
      simp [Phase.pending, gone]
    by_cases valid : invite.isValid event.now = true
    · rw [if_pos valid]
      refine .counts invite row isRow rfl (fun code => rfl) before (fun code => after code _) ?_ ?_
      · rw [unfolded]
        constructor
        · intro keeps
          exact keeps.2 row isRow
        · intro same
          refine ⟨valid, ?_⟩
          intro other isOther
          rw [isRow] at isOther
          cases isOther
          exact same
      · refine ⟨?_, fewer⟩
        dsimp only
        rw [get?_set_self, Option.isSome_some]
    · rw [if_neg valid]
      refine .lapses invite row isRow rfl (fun code => rfl) before (fun code => after code _) ?_
        ⟨known, fewer⟩
      rw [unfolded]
      exact fun keeps => valid keeps.1
  · rw [if_neg use]
    have keepsIff : KeepsCount settings state event ↔ (Provision.useInvite ∈ rest ->
        ∃ peer, provisionPeer settings request event operation (state.tables.peer? peerId) =
          .ok peer) := by
      rw [unfolded]
      cases operation <;> first | rfl | exact absurd rfl use
    have inRest : Provision.useInvite ∈ operation :: rest ↔ Provision.useInvite ∈ rest := by
      rw [mem_cons]
      exact or_iff_right (fun same => use same.symm)
    cases result : provisionPeer settings request event operation (state.tables.peer? peerId) with
    | error error =>
      dsimp only
      by_cases pending : Provision.useInvite ∈ rest
      · refine .lapses invite row isRow rfl (fun code => rfl) ?_ (fun code => rfl) ?_ trivial
        · intro code
          simp [Phase.pending, inRest, pending]
        · rw [keepsIff, result]
          intro keeps
          rcases keeps pending with ⟨peer, impossible⟩
          cases impossible
      · refine .quiet rfl ?_ (keepsIff.mpr (fun member => absurd member pending)) trivial
        intro code
        refine ⟨rfl, ?_⟩
        simp [Phase.pending, inRest, pending]
    | ok peer =>
      refine .quiet rfl ?_ (keepsIff.mpr (fun _ => ⟨peer, result⟩)) ⟨known, fewer⟩
      intro code
      refine ⟨rfl, ?_⟩
      simp [Phase.pending, inRest]

theorem performs (sound : Sound state) {session : Session}
    (found : state.sessions[event.index]? = some session) :
    Performs settings state event session.phase (perform settings state.tables event session) := by
  have isSound := sound.phases session (mem_of_getElem? found)
  rcases session with ⟨request, phase⟩
  cases request with
  | leave request => exact performs_leave isSound found
  | join request =>
    have unfolded := @keepsCount_iff settings _ _ _ _ found
    rw [perform]
    cases phase with
    | waiting =>
      refine performs_reading (fun _ => ⟨rfl, rfl⟩) ?_ (unfolded.mpr trivial)
      intro later read
      rcases readInvite_eq sound.codes read with ⟨invite, rfl, known⟩
      exact ⟨fun code => ⟨rfl, rfl⟩, known⟩
    | invited invite =>
      refine performs_reading (fun _ => ⟨rfl, rfl⟩) ?_ (unfolded.mpr trivial)
      intro later read
      rcases readNetwork_eq read with ⟨network, rfl, _⟩
      exact ⟨fun code => ⟨rfl, rfl⟩, isSound⟩
    | located invite network =>
      refine performs_reading (fun _ => ⟨rfl, rfl⟩) ?_ (unfolded.mpr trivial)
      intro later read
      rcases readMembers_eq read with rfl | rfl
      · exact ⟨fun code => ⟨rfl, rfl⟩, isSound⟩
      · exact ⟨fun code => ⟨rfl, rfl⟩, isSound⟩
    | screened invite network =>
      exact performs_placing (fun _ => ⟨rfl, rfl⟩) isSound (fun _ placed => placed)
        (unfolded.mpr trivial)
    | surveyed invite network used =>
      exact performs_placing (fun _ => ⟨rfl, rfl⟩) isSound (fun _ read => readKey_eq read)
        (unfolded.mpr trivial)
    | placed invite network vpnIp => exact performs_placed found isSound
    | joined invite peerId rest =>
      cases rest with
      | nil => exact .quiet rfl (fun _ => ⟨rfl, rfl⟩) (unfolded.mpr trivial) isSound
      | cons operation rest => exact performs_joined found isSound.1 isSound.2
    | refused error => exact .quiet rfl (fun _ => ⟨rfl, rfl⟩) (unfolded.mpr trivial) isSound
    | failed invite peerId error =>
      exact .quiet rfl (fun _ => ⟨rfl, rfl⟩) (unfolded.mpr trivial) isSound
    | departing network => exact .quiet rfl (fun _ => ⟨rfl, rfl⟩) (unfolded.mpr trivial) isSound
    | departingMember network =>
      exact .quiet rfl (fun _ => ⟨rfl, rfl⟩) (unfolded.mpr trivial) isSound
    | leaving peerId => exact .quiet rfl (fun _ => ⟨rfl, rfl⟩) (unfolded.mpr trivial) isSound
    | left => exact .quiet rfl (fun _ => ⟨rfl, rfl⟩) (unfolded.mpr trivial) isSound

/-! ## One event -/

theorem countP_set_add {α : Type} {items : List α} {index : Nat} {old new : α} {test : α -> Bool}
    (found : items[index]? = some old) :
    (items.set index new).countP test + (test old).toNat = items.countP test + (test new).toNat := by
  induction items generalizing index with
  | nil => cases found
  | cons head rest ih =>
    cases index with
    | zero =>
      cases found
      rw [set_cons_zero, countP_cons, countP_cons]
      cases test old <;> cases test new <;> simp
    | succ index =>
      have moved := ih found
      rw [set_cons_succ, countP_cons, countP_cons]
      omega

theorem step_counts {session : Session} (found : state.sessions[event.index]? = some session)
    (code : String) :
    (state.step settings event).tables = (perform settings state.tables event session).1 ∧
      (state.step settings event).admitted code + (session.phase.admitted code).toNat =
        state.admitted code +
          ((perform settings state.tables event session).2.admitted code).toNat ∧
      (state.step settings event).pending code + (session.phase.pending code).toNat =
        state.pending code +
          ((perform settings state.tables event session).2.pending code).toNat := by
  unfold State.step State.admitted State.pending
  rw [found]
  exact ⟨rfl, countP_set_add found, countP_set_add found⟩

theorem sound_step (sound : Sound state) : Sound (state.step settings event) := by
  cases found : state.sessions[event.index]? with
  | none =>
    rw [State.step, found]
    exact sound
  | some session =>
    have performed := @performs settings _ event sound _ found
    have stepped : state.step settings event =
        { tables := (perform settings state.tables event session).1
          sessions := state.sessions.set event.index
            { session with phase := (perform settings state.tables event session).2 } } := by
      rw [State.step, found]
    rw [stepped]
    generalize perform settings state.tables event session = result at performed ⊢
    have unchanged : ∀ {tables : Tables} {later : Phase},
        tables.invites = state.tables.invites -> later.Sound tables ->
        Sound { tables := tables
                sessions := state.sessions.set event.index { session with phase := later } } := by
      intro tables later invites isSound
      constructor
      · intro code invite isInvite
        dsimp only at isInvite
        rw [invites] at isInvite
        exact sound.codes code invite isInvite
      · intro other member
        rcases mem_or_eq_of_mem_set member with old | rfl
        · exact (sound.phases other old).mono (fun code known => by rwa [invites])
        · exact isSound
    cases performed with
    | quiet invites same keeps isSound => exact unchanged invites isSound
    | admits invite row isRow invites before after keeps isSound => exact unchanged invites isSound
    | lapses invite row isRow invites admitted before after keeps isSound =>
      exact unchanged invites isSound
    | counts invite row isRow invites admitted before after keeps isSound =>
      constructor
      · intro code other isOther
        dsimp only at isOther
        rw [invites] at isOther
        by_cases same : code = invite.code
        · rw [same, get?_set_self] at isOther
          cases isOther
          rw [same]
          exact sound.codes _ row isRow
        · rw [get?_set_of_ne same] at isOther
          exact sound.codes code other isOther
      · intro other member
        rcases mem_or_eq_of_mem_set member with old | rfl
        · apply (sound.phases other old).mono
          intro code known
          rw [invites]
          by_cases same : code = invite.code
          · rw [same, get?_set_self, Option.isSome_some]
          · rw [get?_set_of_ne same]
            exact known
        · exact isSound

theorem inviteCounts_step (sound : Sound state) (right : InviteCounts state) :
    InviteCounts (state.step settings event) ↔ KeepsCount settings state event := by
  cases found : state.sessions[event.index]? with
  | none =>
    rw [State.step, found]
    refine iff_of_true right ?_
    intro request phase same
    rw [found] at same
    cases same
  | some session =>
    have performed := @performs settings _ event sound _ found
    have counts := @step_counts settings _ event _ found
    generalize state.step settings event = later at counts ⊢
    generalize perform settings state.tables event session = result at performed counts
    cases performed with
    | quiet invites same keeps isSound =>
      refine iff_of_true ?_ keeps
      intro code invite isInvite
      rcases counts code with ⟨tables, admitted, pending⟩
      rw [tables, invites] at isInvite
      have before := right code invite isInvite
      rw [(same code).1] at admitted
      rw [(same code).2] at pending
      omega
    | admits invite row isRow invites before after keeps isSound =>
      rw [keeps]
      constructor
      · intro kept
        rcases counts invite.code with ⟨tables, admitted, pending⟩
        rw [(before _).1, (after _).1, decide_eq_true rfl] at admitted
        rw [(before _).2, (after _).2, decide_eq_true rfl] at pending
        have bound := kept invite.code row (by rw [tables, invites, isRow])
        simp only [Bool.toNat_false, Bool.toNat_true] at admitted pending
        omega
      · intro few code other isOther
        rcases counts code with ⟨tables, admitted, pending⟩
        rw [tables, invites] at isOther
        have bound := right code other isOther
        rw [(before _).1, (after _).1] at admitted
        rw [(before _).2, (after _).2] at pending
        by_cases same : invite.code = code
        · rw [decide_eq_true same] at admitted pending
          rw [← same, isRow] at isOther
          cases isOther
          rw [same] at few
          simp only [Bool.toNat_false, Bool.toNat_true] at admitted pending
          omega
        · rw [decide_eq_false same] at admitted pending
          simp only [Bool.toNat_false] at admitted pending
          omega
    | counts invite row isRow invites admittedSame before after keeps isSound =>
      rw [keeps]
      have was := right invite.code row isRow
      constructor
      · intro kept
        rcases counts invite.code with ⟨tables, admitted, pending⟩
        rw [admittedSame] at admitted
        rw [before, after, decide_eq_true rfl] at pending
        have bound := kept invite.code { row with usedCount := invite.usedCount + 1 } (by
          rw [tables, invites, get?_set_self])
        simp only [Bool.toNat_false, Bool.toNat_true] at pending
        dsimp only at bound
        omega
      · intro same code other isOther
        rcases counts code with ⟨tables, admitted, pending⟩
        rw [tables, invites] at isOther
        rw [admittedSame] at admitted
        rw [before, after] at pending
        by_cases here : code = invite.code
        · rw [here, get?_set_self] at isOther
          cases isOther
          rw [here] at admitted pending ⊢
          rw [decide_eq_true rfl] at pending
          simp only [Bool.toNat_false, Bool.toNat_true] at pending
          dsimp only
          omega
        · rw [get?_set_of_ne here] at isOther
          have bound := right code other isOther
          rw [decide_eq_false (fun same => here same.symm)] at pending
          simp only [Bool.toNat_false] at pending
          omega
    | lapses invite row isRow invites admittedSame before after keeps isSound =>
      refine iff_of_false ?_ keeps
      intro kept
      have was := right invite.code row isRow
      rcases counts invite.code with ⟨tables, admitted, pending⟩
      rw [admittedSame] at admitted
      rw [before, after, decide_eq_true rfl] at pending
      have bound := kept invite.code row (by rw [tables, invites, isRow])
      simp only [Bool.toNat_false, Bool.toNat_true] at pending
      omega

/-! ## Runs -/

/-- Invites that have not been used. -/
def Unused (tables : Tables) : Prop :=
  ∀ code invite, tables.invites.get? code = some invite ->
    invite.code = code ∧ invite.usedCount = 0

theorem phase_start {tables : Tables} {requests : List Request} {session : Session}
    (member : session ∈ (State.start tables requests).sessions) : session.phase = .waiting := by
  rcases mem_map.mp member with ⟨request, _, rfl⟩
  rfl

theorem sound_start {tables : Tables} (unused : Unused tables) (requests : List Request) :
    Sound (State.start tables requests) := by
  constructor
  · intro code invite isInvite
    exact (unused code invite isInvite).1
  · intro session member
    rw [phase_start member]
    trivial

theorem inviteCounts_start {tables : Tables} (unused : Unused tables) (requests : List Request) :
    InviteCounts (State.start tables requests) := by
  intro code invite isInvite
  have admitted : (State.start tables requests).admitted code = 0 := by
    apply countP_eq_zero.mpr
    intro session member
    rw [phase_start member]
    exact Bool.false_ne_true
  have pending : (State.start tables requests).pending code = 0 := by
    apply countP_eq_zero.mpr
    intro session member
    rw [phase_start member]
    exact Bool.false_ne_true
  rw [admitted, pending, (unused code invite isInvite).2]
  exact ⟨Nat.zero_le _, rfl⟩

/-- The counts are right throughout a run of joins and leaves exactly when every
event of the run keeps them. -/
theorem invite_counts_throughout (settings : Settings) {tables : Tables} (unused : Unused tables)
    (requests : List Request) (events : List Event) :
    (∀ front back, events = front ++ back ->
      InviteCounts (front.foldl (State.step settings) (State.start tables requests))) ↔
      Meets (State.step settings) (KeepsCount settings) (State.start tables requests) events :=
  @meets_iff_throughout _ _ _ _ _ _ Sound InviteCounts (fun _ => True)
    (fun _ _ sound _ => sound_step sound) (fun _ _ sound right _ => inviteCounts_step sound right)
    (sound_start unused requests) (inviteCounts_start unused requests) (fun _ _ => trivial)

end Steps

/-! ## Two joins at once

Two users join a room with an invite for one, each a step ahead of the other in
turn. -/

namespace Overlap

def network : VpnNetwork where
  id := 5
  cidr := some ⟨.v4, 10 * 2 ^ 24, 24, by decide, by decide⟩
  hostId := some 9

def tables : Tables where
  networks := Dict.empty.set 5 network
  invites := Dict.empty.set "K7QF2MWA" { code := "K7QF2MWA", vpnNetworkId := 5 }

def requests : List Request :=
  [.join { route := .room, userId := 1, inviteCode := "K7QF2MWA" },
    .join { route := .network, userId := 2, inviteCode := "K7QF2MWA" }]

def settings : Settings where
  defaultProviderMode := "personal"
  providerTokenTtl := seconds 3600

def events : List Event :=
  [⟨0, 0, 0, "", ""⟩, ⟨1, 0, 0, "", ""⟩, ⟨0, 0, 0, "", ""⟩, ⟨1, 0, 0, "", ""⟩, ⟨0, 0, 0, "", ""⟩,
    ⟨1, 0, 0, "", ""⟩, ⟨0, 0, 0, "", ""⟩, ⟨1, 0, 0, "", ""⟩, ⟨0, 0, 21, "first key", ""⟩,
    ⟨1, 0, 22, "second key", ""⟩]

def after : State :=
  events.foldl (State.step settings) (State.start tables requests)

/-- An invite for two. -/
def roomyTables : Tables :=
  { tables with
    invites := Dict.empty.set "K7QF2MWA" { code := "K7QF2MWA", vpnNetworkId := 5, maxUses := 2 } }

/-- The first user begins when the second one is counted; from then on the two joins
take turns. -/
def countedEvents : List Event :=
  List.replicate 4 ⟨1, 0, 0, "", ""⟩ ++ (List.replicate 3 ⟨1, 0, 22, "second key", "second token"⟩ ++
    ((List.replicate 4 [⟨0, 0, 0, "", ""⟩, ⟨1, 0, 22, "", "second token"⟩]).flatten ++
      List.replicate 10 ⟨0, 0, 21, "first key", "first token"⟩))

def afterCounted : State :=
  countedEvents.foldl (State.step settings) (State.start roomyTables requests)

theorem roomyTables_unused : Unused roomyTables := by
  intro code invite isInvite
  by_cases same : code = "K7QF2MWA"
  · rw [same, roomyTables, get?_set_self] at isInvite
    cases isInvite
    exact ⟨same.symm, rfl⟩
  · rw [roomyTables, get?_set_of_ne same] at isInvite
    cases isInvite

/-- Both users are admitted and counted. -/
theorem invite_counts_at_counted :
    (∀ front back, countedEvents = front ++ back ->
      InviteCounts (front.foldl (State.step settings) (State.start roomyTables requests))) ∧
      afterCounted.admitted "K7QF2MWA" = 2 ∧
      (afterCounted.tables.invites.get? "K7QF2MWA").map VpnInvite.usedCount = some 2 :=
  ⟨(invite_counts_throughout settings roomyTables_unused requests countedEvents).mpr
    (by decide +kernel), by decide +kernel, by decide +kernel⟩

theorem after_admitted : after.admitted "K7QF2MWA" = 2 ∧
    after.tables.invites.get? "K7QF2MWA" = some { code := "K7QF2MWA", vpnNetworkId := 5 } := by
  decide +kernel

end Overlap

/-- Two peers are admitted with an invite for one. -/
theorem invite_admits_twice : ¬ ∀ front back, Overlap.events = front ++ back ->
    InviteCounts (front.foldl (State.step Overlap.settings)
      (State.start Overlap.tables Overlap.requests)) := by
  intro throughout
  have counts := throughout Overlap.events [] (append_nil _).symm
  rcases Overlap.after_admitted with ⟨two, row⟩
  have bound := (counts "K7QF2MWA" _ row).1
  have more : ¬ 2 ≤ (1 : Int).toNat := by decide
  rw [Overlap.after] at two
  rw [two] at bound
  exact more bound

end Vpn
end ZepGpu
