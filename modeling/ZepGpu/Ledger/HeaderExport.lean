import ZepGpu.Ledger.Run

namespace ZepGpu
namespace Ledger

open Foundation List
open Reference (platform)

/-!
# Exported headers

The service exports a window of its chain as headers, and verifies headers that
it is given.  The window has consecutive heights and linked hashes, and every
approval in it is a valid signature of a distinct active validator, except that
an initialization may repeat an approval of a genesis block that is not final.
-/

variable {F : Type} [Arithmetic F]

section HeaderExport

variable (P : Platform F) (service : LedgerService)

/-- `asdict(header)` -/
def BlockHeader.toDict (header : BlockHeader) : Dict :=
  [("height", .int header.height), ("hash", header.hash), ("previous_hash", header.previousHash),
    ("timestamp", header.timestamp), ("transactions_root", header.transactionsRoot),
    ("state_root", header.stateRoot), ("validator", header.validator),
    ("validator_signature", header.validatorSignature), ("approvals", .arr header.approvals),
    ("finalized", .bool header.finalized)]

/-- The loop of `export_headers`, with the headers that it has collected. -/
def collectHeaders (db : Database F) (fromHeight limit : Int) (finalizedOnly : Bool) :
    List Dict -> List BlockRow -> List Dict
  | headers, [] => headers
  | headers, row :: rest =>
    if row.height < fromHeight then collectHeaders db fromHeight limit finalizedOnly headers rest
    else if finalizedOnly = true ∧ row.finalized = false then
      collectHeaders db fromHeight limit finalizedOnly headers rest
    else
      let headers := headers ++ [(BlockHeader.fromBlock (blockToDomain P db row)).toDict]
      if limit ≤ headers.length then headers
      else collectHeaders db fromHeight limit finalizedOnly headers rest

def exportHeadersBody (fromHeight limit : Int) (finalizedOnly : Bool) (db : Database F) :
    Except PyError (List Dict × Database F) :=
  .ok (collectHeaders P db fromHeight limit finalizedOnly []
    (listAllBlocksAscending db service.chainId), db)

def exportHeaders (stamps : GenesisStamps) (fromHeight limit : Int) (finalizedOnly : Bool) :
    Database F -> Outcome (Database F) PyError (List Dict) :=
  withInitialized P service stamps (exportHeadersBody P service fromHeight limit finalizedOnly)

/-- The answer of `verify_headers_payload`. -/
structure HeadersPayloadReport where
  result : HeaderReport
  chainId : String
  networkId : Option String

def verifyHeadersPayloadBody (headers : List Dict) (fromHeight : Option Int) (db : Database F) :
    Except PyError (HeadersPayloadReport × Database F) := do
  let parsed ← headersFromDicts P headers
  let result ← verifyHeaderChain P parsed (getActiveValidators db service.chainId)
    service.quorumThreshold zeroHash fromHeight
  .ok ({ result, chainId := service.chainId, networkId := service.networkId }, db)

def verifyHeadersPayload (stamps : GenesisStamps) (headers : List Dict) (fromHeight : Option Int) :
    Database F -> Outcome (Database F) PyError HeadersPayloadReport :=
  withInitialized P service stamps (verifyHeadersPayloadBody P service headers fromHeight)

/-- The headers that the service exports are valid when the service verifies them.
There are none only when the chain cannot be initialized. -/
def ExportVerifies (stamps : GenesisStamps) (fromHeight limit : Int) (finalizedOnly : Bool)
    (db : Database F) : Prop :=
  match exportHeaders P service stamps fromHeight limit finalizedOnly db with
  | ⟨.error _, _⟩ => getTip db service.chainId false = none
  | ⟨.ok headers, later⟩ =>
    ∃ report, (verifyHeadersPayload P service stamps headers none later).result = .ok report ∧
      report.result.valid = true ∧ report.result.errors = []

end HeaderExport

section Windows

variable {P : Platform F} {service : LedgerService} {db : Database F}

theorem fromDict_toDict (header : BlockHeader) :
    BlockHeader.fromDict P header.toDict = .ok header := by
  have approvals : listOfJson (header.toDict.getOr "approvals" (.arr [])) = .ok header.approvals := by
    unfold Dict.getOr
    rw [show header.toDict.get? "approvals" = some (.arr header.approvals) from rfl]
    cases header.approvals with
    | nil => rfl
    | cons first rest => rfl
  unfold BlockHeader.fromDict
  rw [approvals]
  rfl

theorem headersFromDicts_map (headers : List BlockHeader) :
    headersFromDicts P (headers.map BlockHeader.toDict) = .ok headers := by
  induction headers with
  | nil => rfl
  | cons header rest ih =>
    rw [map_cons, headersFromDicts, fromDict_toDict, ih]
    rfl

def headerOf (P : Platform F) (db : Database F) (row : BlockRow) : BlockHeader :=
  BlockHeader.fromBlock (blockToDomain P db row)

def selected (fromHeight : Int) (finalizedOnly : Bool) (rows : List BlockRow) : List BlockRow :=
  (rows.filter fun row => finalizedOnly = true -> row.finalized = true).filter fun row =>
    fromHeight ≤ row.height

theorem ChainInvariant.numbered (chain : ChainInvariant P service db) :
    Throughout (fun front row => row.height = (front.length : Int))
      (listAllBlocksAscending db service.chainId) := by
  intro front row back split
  have heights := congrArg (fun heights : List Int => heights[front.length]?) chain.heights
  rw [split, getElem?_map, getElem?_append_right (Nat.le_refl _), Nat.sub_self,
    getElem?_cons_zero, getElem?_map, getElem?_range (by
      rw [length_append, length_cons]
      omega)] at heights
  exact Option.some.inj heights

theorem ChainInvariant.ascending (chain : ChainInvariant P service db) :
    (listAllBlocksAscending db service.chainId).Pairwise fun left right =>
      left.height < right.height := by
  rw [← @pairwise_map _ _ BlockRow.height, chain.heights, pairwise_map]
  exact pairwise_lt_range.imp fun below => Int.ofNat_lt.mpr below

theorem orEmpty_str (text : String) : orEmpty (some (.str text)) = .str text := by
  unfold orEmpty
  by_cases empty : text = ""
  · rw [empty]
    rfl
  · exact if_pos (decide_eq_true empty)

theorem countHeaderApprovals_toDict {hash : String} {authorized seen counted : List String}
    {approvals : List ValidatorApproval} :
    countHeaderApprovals P (.str hash) authorized seen (approvals.map ValidatorApproval.toDict) =
        .ok counted ↔ countApprovals P hash authorized seen approvals = .ok counted := by
  induction approvals generalizing seen with
  | nil => rfl
  | cons approval rest ih =>
    have validator : approvalGet approval.toDict "validator" =
        .ok (some (.str approval.validator)) := rfl
    have signature : approvalGet approval.toDict "signature" =
        .ok (some (.str approval.signature)) := rfl
    rw [map_cons, countHeaderApprovals, validator, signature, countApprovals]
    simp only [bind_eq_ok, raiseIf_eq_ok, Except.ok.injEq, exists_eq_left', orEmpty_str,
      memberOf, ih, verifyReceived, decide_eq_false_iff_not]

theorem anyApprovalBy_toDict {validator : String} {approvals : List ValidatorApproval}
    (named : validator ∈ approvals.map ValidatorApproval.validator) :
    anyApprovalBy (.str validator) (approvals.map ValidatorApproval.toDict) = .ok true := by
  induction approvals with
  | nil => cases named
  | cons approval rest ih =>
    have first : approvalGet approval.toDict "validator" = .ok (some (.str approval.validator)) := rfl
    rw [map_cons, anyApprovalBy, first]
    change (if (Json.str validator).same (.str approval.validator) = true then _ else _) = _
    split_ifs with same
    · rfl
    · refine ih ((mem_cons.mp named).resolve_left fun here => same ?_)
      exact Json.same_str_iff.mpr (congrArg Json.str here.symm)

theorem headerSigned_fromBlock_iff {authorized : List String} {quorumThreshold : Nat}
    {block : ComputeBlock}
    (proposer : block.validator ∈ block.approvals.map ValidatorApproval.validator) :
    HeaderSigned P authorized quorumThreshold (BlockHeader.fromBlock block) ↔
      block.validator ∈ authorized ∧
        P.verifySignature block.validator block.hash block.validatorSignature = true ∧
        Cosigned P block.hash authorized block.approvals ∧
        (block.finalized = true -> quorumThreshold ≤ block.approvals.length) := by
  let header := BlockHeader.fromBlock block
  have known : memberOf header.validator authorized = .ok (decide (block.validator ∈ authorized)) :=
    rfl
  have own : verifyReceived P (P.str header.validator) header.hash header.validatorSignature =
      P.verifySignature block.validator block.hash block.validatorSignature := rfl
  have present : anyApprovalBy header.validator header.approvals = .ok true :=
    anyApprovalBy_toDict proposer
  have counts : ∀ counted, countHeaderApprovals P header.hash authorized [] header.approvals =
      .ok counted ↔ countApprovals P block.hash authorized [] block.approvals = .ok counted :=
    fun counted => countHeaderApprovals_toDict
  have final : header.finalized = block.finalized := rfl
  change verifyHeaderSignatures P header authorized
    (if header.finalized then quorumThreshold else 1) = .ok () ↔ _
  rw [verifyHeaderSignatures]
  simp only [bind_eq_ok, raiseIf_eq_ok, known, own, present, counts, final, Except.ok.injEq,
    exists_eq_left', exists_const, if_true, countApprovals_eq_ok_iff P nodup_nil,
    Bool.not_eq_false, decide_eq_true_eq]
  refine and_congr_right fun _ => and_congr_right fun _ => ?_
  constructor
  · rintro ⟨seen, ⟨rfl, distinct, known, signed⟩, quorum⟩
    rw [nil_append] at distinct quorum
    refine ⟨⟨known, distinct, signed⟩, fun final => ?_⟩
    rw [length_map, if_pos final] at quorum
    exact Nat.not_lt.mp fun short => quorum ⟨final, short⟩
  · rintro ⟨cosigned, quorum⟩
    refine ⟨_, ⟨rfl, cosigned.distinct, cosigned.known, cosigned.signed⟩, ?_⟩
    rintro ⟨final, short⟩
    rw [if_pos final, nil_append, length_map] at short
    exact absurd (quorum final) (Nat.not_le.mpr short)

/-- A stored block whose header passes. -/
structure HeaderSound (P : Platform F) (service : LedgerService) (db : Database F) (row : BlockRow) :
    Prop where
  authorized : row.validatorPublicKey ∈ getActiveValidators db service.chainId
  signed : P.verifySignature row.validatorPublicKey row.hash row.validatorSignature = true
  proposer : row.validatorPublicKey ∈ row.approvals.map ValidatorApproval.validator
  cosigned : Cosigned P row.hash (getActiveValidators db service.chainId) row.approvals
  quorum : row.finalized = true -> service.quorumThreshold ≤ row.approvals.length

/-- The blocks are told apart by their identifiers, and those of the chain pass. -/
structure HeadersSound (P : Platform F) (service : LedgerService) (db : Database F) : Prop where
  distinct : (db.blocks.map BlockRow.id).Nodup
  sound : ∀ row, row ∈ db.blocks -> row.chainId = service.chainId -> HeaderSound P service db row

end Windows

section Steps

variable {P : Platform F} {service : LedgerService} {db later : Database F}

theorem Cosigned.mono {hash : String} {validators more : List String}
    {approvals : List ValidatorApproval} (cosigned : Cosigned P hash validators approvals)
    (inside : validators ⊆ more) : Cosigned P hash more approvals :=
  ⟨fun approval member => inside (cosigned.known approval member), cosigned.distinct, cosigned.signed⟩

theorem HeaderSound.mono {row : BlockRow} (sound : HeaderSound P service db row)
    (active : getActiveValidators db service.chainId ⊆ getActiveValidators later service.chainId) :
    HeaderSound P service later row :=
  ⟨active sound.authorized, sound.signed, sound.proposer, sound.cosigned.mono active, sound.quorum⟩

theorem HeadersSound.of_same (holds : HeadersSound P service db) (blocks : later.blocks = db.blocks)
    (active : getActiveValidators db service.chainId ⊆ getActiveValidators later service.chainId) :
    HeadersSound P service later := by
  refine ⟨by rw [blocks]; exact holds.distinct, fun row member onChain => ?_⟩
  rw [blocks] at member
  exact (holds.sound row member onChain).mono active

theorem HeadersSound.store {head : Head F} {validators : List String} {base : Database F}
    (holds : HeadersSound P service base) (accepted : head.Accepted P service validators base)
    (cosigned : Cosigned P (head.draft P service).hash (getActiveValidators base service.chainId)
      head.approvals) : HeadersSound P service (head.store P service base) := by
  refine ⟨nodup_keys_append_singleton holds.distinct accepted.fits.freshId, ?_⟩
  intro row member onChain
  rcases mem_append.mp member with old | new
  · exact (holds.sound row old onChain).mono (List.Subset.refl _)
  · rw [mem_singleton.mp new]
    exact ⟨accepted.active accepted.valid.authorized, accepted.valid.signed, accepted.proposer,
      cosigned, of_decide_eq_true⟩

theorem HeadersSound.sealPending {stamp : Stamp} {result : Option ComputeBlock}
    (holds : HeadersSound P service db)
    (run : sealPendingBody P service stamp db = .ok (result, later)) :
    HeadersSound P service later := by
  rcases sealPendingBody_collects run with
    ⟨-, -, rfl⟩ | ⟨head, validators, base, seals, cosigned, -, rfl⟩
  · exact holds
  · exact (holds.of_same seals.same.blocks (seals.same.active _)).store seals.accepted
      (cosigned.mono seals.accepted.active)

theorem HeadersSound.approve {hash key signature : String} {block : ComputeBlock}
    (holds : HeadersSound P service db)
    (run : approveBody P service hash key signature db = .ok (block, later)) :
    HeadersSound P service later := by
  obtain ⟨row, balances, approves, rfl, rfl⟩ := approveBody_effect run
  refine ⟨by rw [storeApproval_ids]; exact holds.distinct, fun changed member onChain => ?_⟩
  obtain ⟨old, stored, rfl⟩ := mem_map.mp member
  by_cases here : old.id = row.id
  · have same := inj_on_of_nodup_map holds.distinct stored
      (mem_of_getBlockByHash approves.found).1 here
    subst same
    rw [if_pos rfl]
    have sound := holds.sound old stored approves.onChain
    have named : (approvingBlock service (blockToDomain P db old) key signature).validator ∈
        (approvingBlock service (blockToDomain P db old) key signature).approvals.map
          ValidatorApproval.validator := by
      change old.validatorPublicKey ∈ (old.approvals ++ [(⟨key, signature⟩ : ValidatorApproval)]).map _
      rw [map_append]
      exact mem_append_left _ sound.proposer
    have shape : approvedBlock service (blockToDomain P db old) key signature =
        approvingBlock service (blockToDomain P db old) key signature := by
      unfold approvedBlock
      rw [ensureProposerApproval_of_mem named, ite_self]
    rw [shape]
    have fresh : key ∉ old.approvals.map ValidatorApproval.validator := approves.approvable.first
    refine ⟨sound.authorized, sound.signed, named, ⟨?_, ?_, ?_⟩, fun final => ?_⟩
    · intro approval listed
      rcases mem_append.mp listed with before | new
      · exact sound.cosigned.known approval before
      · rw [mem_singleton.mp new]
        exact approves.approvable.active
    · change ((old.approvals ++ [(⟨key, signature⟩ : ValidatorApproval)]).map ValidatorApproval.validator).Nodup
      rw [map_append, nodup_append_comm]
      exact nodup_cons.mpr ⟨fresh, sound.cosigned.distinct⟩
    · intro approval listed
      rcases mem_append.mp listed with before | new
      · exact sound.cosigned.signed approval before
      · rw [mem_singleton.mp new]
        exact approves.approvable.signed
    · change service.quorumThreshold ≤ (old.approvals ++ [(⟨key, signature⟩ : ValidatorApproval)]).length
      rw [length_append]
      exact of_decide_eq_true final
  · rw [if_neg here] at onChain ⊢
    exact (holds.sound old stored onChain).mono (List.Subset.refl _)

def genesisKeys (P : Platform F) (service : LedgerService) : List String :=
  (service.validatorKeys P).2 :: (service.extraValidatorKeys P).map Prod.snd

/-- No approval of a genesis block is repeated, or a repeated one is refused, or
nothing can be stored. -/
def GenesisUnrepeated (P : Platform F) (service : LedgerService) : Prop :=
  (genesisKeys P service).Nodup ∨ service.quorumThreshold ≤ (genesisKeys P service).length ∨
    ¬Scoped P service.chainId service.networkId

theorem genesisHead_validators (stamps : GenesisStamps) :
    (genesisHead P service stamps).approvals.map ValidatorApproval.validator =
      genesisKeys P service := by
  rw [genesisHead_approvals, extraApprovals, Head.draft_eq, map_append, map_map]
  rfl

theorem Initializes.cosigned {stamps : GenesisStamps} {validators : List String}
    {base stored : Database F} (unrepeated : GenesisUnrepeated P service)
    (initializes : Initializes P service stamps db validators base stored)
    (registered : (service.extraValidatorKeys P).map Prod.snd ⊆
      getActiveValidators base service.chainId) :
    Cosigned P ((genesisHead P service stamps).draft P service).hash
      (getActiveValidators stored service.chainId) (genesisHead P service stamps).approvals := by
  have accepted := initializes.accepted
  have distinct : ((genesisHead P service stamps).approvals.map
      ValidatorApproval.validator).Nodup := by
    rcases unrepeated with distinct | reached | unscoped
    · rw [genesisHead_validators]
      exact distinct
    · rw [← genesisHead_validators stamps, length_map] at reached
      have approved := accepted.valid.approved P (decide_eq_true reached)
      rw [ensureProposerApproval_of_mem accepted.proposer] at approved
      exact approved.distinct
    · exact absurd accepted.fits.inScope unscoped
  have extras : (service.extraValidatorKeys P).map Prod.snd ⊆
      getActiveValidators stored service.chainId := by
    rw [initializes.transaction.active]
    exact registered
  have relay : (service.validatorKeys P).2 ∈ getActiveValidators stored service.chainId := by
    have member := accepted.active accepted.valid.authorized
    rw [Head.block, Head.draft_eq] at member
    exact member
  have drafted : Cosigned P ((genesisHead P service stamps).draft P service).hash
      (getActiveValidators stored service.chainId)
      ((genesisHead P service stamps).draft P service).approvals := Head.draft_cosigned relay
  refine ⟨?_, distinct, ?_⟩
  · intro approval listed
    rcases mem_append.mp listed with own | extra
    · exact drafted.known approval own
    · obtain ⟨keys, member, rfl⟩ := mem_map.mp extra
      exact extras (mem_map_of_mem member)
  · intro approval listed
    rcases mem_append.mp listed with own | extra
    · exact drafted.signed approval own
    · obtain ⟨keys, member, rfl⟩ := mem_map.mp extra
      dsimp only
      rw [extraValidatorKeys_public P member]
      exact P.verify_sign _ _

theorem HeadersSound.ensureInitialized {stamps : GenesisStamps} {block : ComputeBlock}
    (unrepeated : GenesisUnrepeated P service) (holds : HeadersSound P service db)
    (run : ensureInitialized P service stamps db = .ok (block, later)) :
    HeadersSound P service later := by
  rcases ensureInitialized_registers run with
    ⟨-, rfl⟩ | ⟨validators, base, stored, initializes, registered, rfl⟩
  · exact holds
  · have middle : HeadersSound P service stored := by
      refine (holds.of_same initializes.same.blocks (initializes.same.active _)).of_same
        initializes.transaction.blocks ?_
      rw [initializes.transaction.active]
      exact List.Subset.refl _
    exact middle.store initializes.accepted (initializes.cosigned unrepeated registered)

theorem transaction_headersSound {α : Type} {body : Database F -> Except PyError (α × Database F)}
    (holds : HeadersSound P service db)
    (step : ∀ value written, body db = .ok (value, written) -> HeadersSound P service written) :
    HeadersSound P service (transaction body db).state := by
  rcases transaction_cases body db with ⟨error, same⟩ | ⟨value, written, run, same⟩
  · rw [same]
    exact holds
  · rw [same]
    exact step value written run

theorem withInitialized_headersSound {α : Type} {stamps : GenesisStamps}
    {body : Database F -> Except PyError (α × Database F)} (unrepeated : GenesisUnrepeated P service)
    (holds : HeadersSound P service db)
    (step : ∀ middle value written, HeadersSound P service middle ->
      body middle = .ok (value, written) -> HeadersSound P service written) :
    HeadersSound P service (withInitialized P service stamps body db).state := by
  rw [withInitialized]
  rcases transaction_cases (Ledger.ensureInitialized P service stamps) db with
    ⟨error, same⟩ | ⟨block, middle, run, same⟩
  · rw [same]
    exact holds
  · rw [same]
    have first := holds.ensureInitialized unrepeated run
    exact transaction_headersSound first fun value written => step middle value written first

theorem HeadersSound.perform (unrepeated : GenesisUnrepeated P service)
    (holds : HeadersSound P service db) (request : Request) :
    HeadersSound P service (request.perform P service db) := by
  cases request with
  | ensureInitialized stamps =>
    exact transaction_headersSound holds fun _ _ run => holds.ensureInitialized unrepeated run
  | submitTransaction stamps stamp tx autoSeal requireSignature =>
    refine withInitialized_headersSound unrepeated holds fun middle result written sound run => ?_
    obtain ⟨row, submits, rest⟩ := submitBody_effect run
    have stored : HeadersSound P service { middle with transactions := middle.transactions ++ [row] } :=
      sound.of_same rfl (List.Subset.refl _)
    split_ifs at rest
    · exact stored.sealPending rest
    · obtain ⟨-, rfl⟩ := rest
      exact stored
  | sealPending stamps stamp =>
    exact withInitialized_headersSound unrepeated holds fun _ _ _ sound run => sound.sealPending run
  | approveBlock stamps hash key signature =>
    exact withInitialized_headersSound unrepeated holds fun _ _ _ sound run => sound.approve run
  | rebuildBalances =>
    refine transaction_headersSound holds fun _ written run => ?_
    obtain ⟨state, -, rfl⟩ := rebuildBody_effect P service run
    exact holds.of_same rfl (List.Subset.refl _)
  | registerValidator stamps key =>
    refine withInitialized_headersSound unrepeated holds fun _ _ _ sound run => ?_
    have same := registerBody_effect P service run
    exact sound.of_same same.blocks (same.active _)

theorem upsertValidators_succeeds (inScope : Scoped P service.chainId service.networkId)
    {keys : List String} (short : ∀ key, key ∈ keys -> key.length ≤ 128) (db : Database F) :
    ∃ later, upsertValidators P service keys db = .ok later := by
  induction keys generalizing db with
  | nil => exact ⟨db, rfl⟩
  | cons key rest ih =>
    obtain ⟨middle, registered⟩ := upsertValidator_succeeds P db inScope (short key mem_cons_self)
    obtain ⟨later, run⟩ := ih (fun other member => short other (mem_cons_of_mem _ member)) middle
    exact ⟨later, by rw [upsertValidators, registered]; exact run⟩

theorem ensureInitialized_awaiting (inScope : Scoped P service.chainId service.networkId)
    (waits : (genesisKeys P service).length < service.quorumThreshold) (stamps : GenesisStamps) :
    ∃ stored, stored.blocks = [] ∧ ensureInitialized P service stamps {} =
        .ok ((genesisHead P service stamps).block P service,
          (genesisHead P service stamps).store P service stored) := by
  have relay : (service.validatorKeys P).2.length ≤ 128 := by
    rw [validatorKeys_public, P.publicKey_length]
    decide
  obtain ⟨first, registered⟩ := upsertValidator_succeeds P {} inScope relay
  obtain ⟨same, member⟩ := upsertValidator_effect P registered
  obtain ⟨base, extras⟩ := @upsertValidators_succeeds F _ P service inScope
    ((service.extraValidatorKeys P).map Prod.snd) (by
      intro key listed
      obtain ⟨keys, inside, rfl⟩ := mem_map.mp listed
      rw [extraValidatorKeys_public P inside, P.publicKey_length]
      decide) first
  have sameBase : SameLedger {} base := same.trans (upsertValidators_effect extras)
  have added : addMissingTransactions P service
      ((genesisHead P service stamps).transactions.map (rowToTx P)) base = .ok { base with
        transactions := base.transactions ++ [genesisRow P service stamps.transaction] } := by
    refine addMissing_genesis_of_fresh inScope ?_
    rw [sameBase.transactions]
    exact fun row listed => absurd listed not_mem_nil
  have front : ((genesisHead P service stamps).draft P service).approvals <+:
      (genesisHead P service stamps).approvals := prefix_append _ _
  have waiting : decide (service.quorumThreshold ≤
      (genesisHead P service stamps).approvals.length) = false := by
    rw [← genesisHead_validators stamps, length_map] at waits
    exact decide_eq_false (Nat.not_le.mpr waits)
  have accepted : (genesisHead P service stamps).Accepted P service
      (getActiveValidators base service.chainId) { base with
        transactions := base.transactions ++ [genesisRow P service stamps.transaction] } := {
    active := List.Subset.refl _
    valid := by
      refine proposeBlock_valid P (validatorKeys_public P service) (fun _ same => Option.some.inj same)
        (fun _ same => Option.some.inj same) ((upsertValidators_effect extras).active _ member) ?_ ?_
      · intro tx listed
        rw [mem_singleton.mp listed, rowToTx_genesisRow, genesisTransaction, validatorKeys_public]
        exact newSignedTransaction_valid P true (Int.le_refl 0)
      · intro counted
        change (decide _ || decide _) = true at counted
        rw [waiting] at counted
        cases counted
    proposer := Head.proposer_of_front front
    fits := {
      inScope := inScope
      freshId := by
        rw [sameBase.blocks]
        exact fun block listed => absurd listed not_mem_nil
      freshHash := by
        rw [sameBase.blocks]
        exact fun block listed => absurd listed not_mem_nil
      freshHeight := by
        rw [sameBase.blocks]
        exact fun block listed => absurd listed not_mem_nil
      accounts := by
        intro entries listed
        rw [blockBalances] at listed
        split_ifs at listed with final
        exact absurd (final.symm.trans waiting) (by decide) } }
  obtain ⟨passed, persisted⟩ := (Head.validate_persist_iff accepted.active front added).mpr
    ⟨accepted, rfl, rfl⟩
  refine ⟨{ base with
    transactions := base.transactions ++ [genesisRow P service stamps.transaction] },
    sameBase.blocks, ?_⟩
  rw [ensureInitialized, show getTip {} service.chainId false = none from rfl]
  simp only [bind_eq_ok]
  exact ⟨first, registered, base, extras, _, passed, _, persisted, rfl⟩

theorem not_exportVerifies (inScope : Scoped P service.chainId service.networkId)
    (repeated : ¬(genesisKeys P service).Nodup)
    (waits : (genesisKeys P service).length < service.quorumThreshold) (stamps : GenesisStamps) :
    ¬ExportVerifies P service stamps 0 100 false {} := by
  obtain ⟨stored, none, run⟩ := ensureInitialized_awaiting inScope waits stamps
  let head := genesisHead P service stamps
  have height : (head.row P service).height = 0 := Head.row_height
  have blocks : chainBlocks (head.store P service stored) service.chainId = [head.row P service] := by
    have listed : (head.store P service stored).blocks = stored.blocks ++ [head.row P service] := rfl
    rw [chainBlocks, listed, none, nil_append]
    exact filter_cons_of_pos (decide_eq_true ⟨rfl, by rintro ⟨⟩⟩)
  have collected : collectHeaders P (head.store P service stored) 0 100 false []
      (listAllBlocksAscending (head.store P service stored) service.chainId) =
        [headerOf P (head.store P service stored) (head.row P service)].map BlockHeader.toDict := by
    rw [listAllBlocksAscending, blocks, insertionSort_cons, insertionSort_nil,
      orderedInsert_nil, collectHeaders, height, if_neg (by decide),
      if_neg (fun only => Bool.false_ne_true only.1)]
    rfl
  unfold ExportVerifies exportHeaders
  rw [withInitialized, transaction_of_ok run]
  rintro ⟨report, verified, valid, -⟩
  have begun := (ensureInitialized_begins run).2
  rw [verifyHeadersPayload, withInitialized_of_begun P service begun] at verified
  obtain ⟨written, body⟩ := transaction_result_eq_ok.mp verified
  rw [verifyHeadersPayloadBody, collected, headersFromDicts_map] at body
  obtain ⟨headers, parsed, body⟩ := bind_eq_ok.mp body
  obtain ⟨result, checked, same⟩ := bind_eq_ok.mp body
  cases parsed
  cases same
  have signed := ((verifyHeaderChain_valid_iff P).mp ⟨result, checked, valid⟩).2 _
    (mem_singleton_self _)
  have proposer : (head.row P service).validatorPublicKey ∈
      (head.row P service).approvals.map ValidatorApproval.validator :=
    Head.proposer_of_front (prefix_append _ _)
  have cosigned := ((@headerSigned_fromBlock_iff F _ P _ _
    (blockToDomain P (head.store P service stored) (head.row P service)) proposer).mp signed).2.2.1
  have distinct : (genesisKeys P service).Nodup := by
    rw [← genesisHead_validators stamps]
    exact cosigned.distinct
  exact repeated distinct

end Steps

def repeatedService : LedgerService :=
  LedgerService.ofNetwork
    { validatorPrivateKey := "r", extraValidatorPrivateKeys := "r", quorumThreshold := 3,
      secretKey := "s" } none

theorem repeatedService_keys : genesisKeys platform repeatedService =
    [platform.publicKeyFromPrivate "r", platform.publicKeyFromPrivate "r"] := by
  have configured : repeatedService.settings.validatorPrivateKey = "r" := rfl
  have extra : repeatedService.settings.extraValidatorPrivateKeys = "r" := rfl
  have stripped : strip "r" = "r" := by decide
  have parts : ((strip "r").toList.splitOn ',').map (fun part => strip (String.ofList part)) =
      ["r"] := by decide
  rw [genesisKeys, LedgerService.validatorKeys, configured, if_pos (by decide), stripped,
    LedgerService.extraValidatorKeys, extra, parts]
  rfl

theorem repeatedService_scoped :
    Scoped platform repeatedService.chainId repeatedService.networkId := by
  have unscoped : parseNetworkId "zepgpu-compute-v1" = none := by decide
  have network : repeatedService.networkId = none := by
    simp only [repeatedService, LedgerService.ofNetwork, LedgerService.new, chainIdForNetwork,
      Option.filter_none, Option.getD_none, unscoped]
    rfl
  have chain : repeatedService.chainId = "zepgpu-compute-v1" := rfl
  rw [network, chain]
  exact ⟨⟨none, rfl⟩, by decide⟩

/-- The genesis block of this service is exported with a repeated approval. -/
theorem repeated_approval_exported :
    ¬ExportVerifies platform repeatedService ⟨⟨1, 0⟩, ⟨2, 0⟩⟩ 0 100 false {} := by
  refine not_exportVerifies repeatedService_scoped ?_ ?_ _
  · rw [repeatedService_keys]
    exact fun distinct => (nodup_cons.mp distinct).1 (mem_singleton_self _)
  · rw [repeatedService_keys]
    decide

end Ledger
end ZepGpu
