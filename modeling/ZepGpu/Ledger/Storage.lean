import ZepGpu.Ledger.Progress

namespace ZepGpu
namespace Ledger

open Foundation List
open Reference

/-!
# Transactions read back from storage

The sender signs a text that contains the identifier and the time as they were
written.  The tables keep the values, and the service writes them out again in
its own spelling.  A transaction that was spelled otherwise, for instance with
an identifier without dashes or a time that ends in `Z`, is accepted but reads
back as another transaction.
-/

variable {F : Type} [Arithmetic F]

section Storage

variable (P : Platform F)

/-- The transaction has the spelling in which the service writes it. -/
def ComputeTransaction.Canonical (tx : ComputeTransaction) : Prop :=
  (∃ id, tx.id = P.strOfUuid id) ∧ ∃ time, tx.timestamp = P.isoformat time

/-- A stored transaction has the hash of the submitted one, and its signature
verifies if the submitted one did. -/
structure SurvivesStorage (tx stored : ComputeTransaction) : Prop where
  hash : stored.computeHash P = tx.computeHash P
  signature : P.verifySignature tx.sender (tx.signingText P) tx.signature = true ->
    P.verifySignature stored.sender (stored.signingText P) stored.signature = true

variable {P} {service : LedgerService} {tx : ComputeTransaction} {db : Database F}

/-- A converted transaction reads back with its own fields, except that the
identifier and the time are written anew. -/
theorem rowToTx_of_converted {row : TransactionRow}
    (converted : transactionRow P service tx = .ok row) :
    ∃ time id, P.parseTs tx.timestamp = .ok time ∧ P.asUuid tx.id = .ok id ∧ row.id = id ∧
      rowToTx P row = { tx with id := P.strOfUuid id, timestamp := P.isoformat time } := by
  obtain ⟨time, id, parsed, read, rfl⟩ := transactionRow_eq_ok_iff.mp converted
  exact ⟨time, id, parsed, read, rfl, rfl⟩

theorem survivesStorage_iff {row : TransactionRow}
    (converted : transactionRow P service tx = .ok row)
    (separate : (rowToTx P row).computeHash P = tx.computeHash P ->
      (rowToTx P row).signingText P = tx.signingText P) :
    SurvivesStorage P tx (rowToTx P row) ↔ tx.Canonical P := by
  obtain ⟨time, id, parsed, read, _, shape⟩ := rowToTx_of_converted converted
  constructor
  · intro survives
    have same := separate survives.hash
    rw [shape] at same
    obtain ⟨idText, timeText⟩ := signingText_inj P
      { tx with id := P.strOfUuid id, timestamp := P.isoformat time } tx rfl rfl rfl same
    exact ⟨⟨id, idText.symm⟩, time, timeText.symm⟩
  · rintro ⟨⟨ownId, idText⟩, ownTime, timeText⟩
    rw [idText, P.asUuid_strOfUuid, Except.ok.injEq] at read
    rw [timeText, P.parseTs_isoformat, Except.ok.injEq] at parsed
    have unchanged : rowToTx P row = tx := by
      rw [shape, ← read, ← parsed, ← idText, ← timeText]
    rw [unchanged]
    exact ⟨rfl, fun verified => verified⟩

theorem ownTransaction_canonical (P : Platform F) (key : String) (txType : TxType) (nonce : Int)
    (payload : Dict) (stamp : Stamp) :
    (ownTransaction P key txType nonce payload stamp).Canonical P :=
  ⟨⟨stamp.id, rfl⟩, stamp.time, rfl⟩

def signedWith (P : Platform F) (key : String) (draft : ComputeTransaction) : ComputeTransaction :=
  { draft with signature := P.signMessage key (draft.signingText P) }

theorem signedWith_valid {key : String} {draft : ComputeTransaction} (named : draft.id ≠ "")
    (sender : draft.sender = P.publicKeyFromPrivate key) (natural : 0 ≤ draft.nonce) :
    TransactionValid P true (signedWith P key draft) := by
  refine ⟨named, ?_, natural, fun _ => ⟨P.signature_ne_empty _ _, ?_⟩⟩
  · change draft.sender ≠ ""
    rw [sender]
    exact P.publicKey_ne_empty _
  · change P.verifySignature draft.sender (draft.signingText P) _ = true
    rw [sender]
    exact P.verify_sign _ _

/-! ## Accepted transactions -/

theorem rowToTx_placeRow (blockId : Uuid) (places : List (Uuid × Nat)) (row : TransactionRow) :
    rowToTx P (placeRow blockId places row) = rowToTx P row := by
  obtain ⟨block, position, same⟩ := placeRow_frame blockId places row
  rw [same]
  rfl

theorem submitTransaction_commits {stamps : GenesisStamps} {stamp : Stamp} {autoSeal : Option Bool}
    {requireSignature : Bool} {result : Option ComputeBlock}
    (accepted : (submitTransaction P service stamps stamp tx autoSeal requireSignature db).result =
      .ok result) :
    ∃ before, Commits P service
      (.submitTransaction stamps stamp tx autoSeal requireSignature) before
      (submitTransaction P service stamps stamp tx autoSeal requireSignature db).state := by
  rw [submitTransaction, withInitialized] at accepted ⊢
  rcases transaction_cases (ensureInitialized P service stamps) db with
    ⟨error, failed⟩ | ⟨block, middle, run, same⟩
  · rw [failed] at accepted
    cases accepted
  · rw [same] at accepted ⊢
    change (transaction _ middle).result = _ at accepted
    obtain ⟨written, body⟩ := transaction_result_eq_ok.mp accepted
    refine ⟨middle, ?_⟩
    change Commits P service _ middle (transaction _ middle).state
    rw [transaction_of_ok body]
    exact submitBody_commits stamps (ensureInitialized_begins run).2 body

theorem stored_of_commits {stamps : GenesisStamps} {stamp : Stamp} {autoSeal : Option Bool}
    {requireSignature : Bool} {later : Database F}
    (commits : Commits P service
      (.submitTransaction stamps stamp tx autoSeal requireSignature) db later) :
    ∃ row, transactionRow P service tx = .ok row ∧
      (∃ stored, stored ∈ later.transactions ∧ stored.id = row.id) ∧
      ∀ stored, stored ∈ later.transactions -> stored.id = row.id ->
        rowToTx P stored = rowToTx P row := by
  cases commits with
  | @submit _ _ _ _ _ _ row begun left submits =>
    refine ⟨row, submits.converted, ⟨row, mem_append_right _ (mem_singleton.mpr rfl), rfl⟩, ?_⟩
    intro stored member same
    rcases mem_append.mp member with old | new
    · exact absurd same (submits.freshId stored old)
    · rw [mem_singleton.mp new]
  | @submitAndSeal _ base _ _ _ _ _ row head _ begun submits seals =>
    have transactions : base.transactions = db.transactions ++ [row] := seals.same.transactions
    have placed : (head.store P service base).transactions = base.transactions.map
        (placeRow (head.row P service).id (head.transactions.map TransactionRow.id).zipIdx) :=
      placeTransactions_eq_map _ _ _
    rw [placed, transactions]
    refine ⟨row, submits.converted, ⟨_, mem_map_of_mem (mem_append_right _
      (mem_singleton.mpr rfl)), placeRow_id _ _ _⟩, ?_⟩
    intro stored member same
    obtain ⟨old, listed, rfl⟩ := mem_map.mp member
    rw [placeRow_id] at same
    rw [rowToTx_placeRow]
    rcases mem_append.mp listed with earlier | new
    · exact absurd same (submits.freshId old earlier)
    · rw [mem_singleton.mp new]

/-- A transaction that `submit_transaction` accepts is stored, and what is
stored has its hash and its signature exactly when the submitted transaction
is spelled canonically.  The digests of the two texts are supposed not to
collide. -/
theorem submitted_survivesStorage_iff {stamps : GenesisStamps} {stamp : Stamp}
    {autoSeal : Option Bool} {requireSignature : Bool} {result : Option ComputeBlock}
    (accepted : (submitTransaction P service stamps stamp tx autoSeal requireSignature db).result =
      .ok result)
    (separate : ∀ row, transactionRow P service tx = .ok row ->
      (rowToTx P row).computeHash P = tx.computeHash P ->
        (rowToTx P row).signingText P = tx.signingText P) :
    let tables := (submitTransaction P service stamps stamp tx autoSeal requireSignature db).state
    (∃ stored, stored ∈ tables.transactions ∧ P.asUuid tx.id = .ok stored.id) ∧
      ∀ stored, stored ∈ tables.transactions -> P.asUuid tx.id = .ok stored.id ->
        (SurvivesStorage P tx (rowToTx P stored) ↔ tx.Canonical P) := by
  intro tables
  obtain ⟨before, commits⟩ := submitTransaction_commits accepted
  obtain ⟨row, converted, ⟨kept, member, named⟩, only⟩ := stored_of_commits commits
  obtain ⟨_, id, _, read, rowId, _⟩ := rowToTx_of_converted converted
  refine ⟨⟨kept, member, ?_⟩, ?_⟩
  · rw [named, rowId]
    exact read
  · intro stored listed same
    rw [read, Except.ok.injEq] at same
    rw [only stored listed (same.symm.trans rowId.symm)]
    exact survivesStorage_iff converted (separate row converted)

end Storage

/-! ### An identifier without dashes -/

/-- The identifier 3, as `UUID.hex` writes it. -/
def undashedId : String := "00000000000000000000000000000003"

def undashedDraft : ComputeTransaction where
  txType := .jobSubmitted
  sender := platform.publicKeyFromPrivate "u"
  nonce := 1
  payload := []
  timestamp := platform.isoformat 0
  id := undashedId

def undashedTransaction : ComputeTransaction :=
  signedWith platform "u" undashedDraft

theorem asUuid_undashed : platform.asUuid undashedId = .ok 3 := by
  decide

/-- The text is not read as starting with an identifier: the place where an
identifier ends holds its closing quotation mark. -/
theorem sha256Hex_undashed : undashedTransaction.computeHash platform = digest 'a' 0 := by
  obtain ⟨rest, shape⟩ := signingText_front platform undashedTransaction
  have digits : undashedId.toList.length = 32 := by decide
  have quoted : Json.quoted undashedTransaction.id = '"' :: (undashedId.toList ++ ['"']) := by
    change Json.quoted undashedId = _
    decide
  have front : (undashedTransaction.signingText platform).toList =
      "\x7b\"id\":\"".toList ++ (undashedId.toList ++ '"' :: rest) := by
    rw [shape, quoted]
    simp
  have isId : "\x7b\"id\":\"".toList.isPrefixOf
      (undashedTransaction.signingText platform).toList = true := by
    rw [List.isPrefixOf_iff_prefix, front]
    exact prefix_append _ _
  have taken : ((undashedTransaction.signingText platform).toList.drop 7).take 36 =
      undashedId.toList ++ '"' :: rest.take 3 := by
    rw [front, drop_left' (by decide), take_append, digits,
      take_of_length_le (by rw [digits]; decide)]
    rfl
  have unread : uuidOfString (String.ofList (undashedId.toList ++ '"' :: rest.take 3)) =
      none := by
    have kept : (undashedId.toList ++ ['"']).filter (fun c => decide (c ≠ '-')) =
        undashedId.toList ++ ['"'] := by decide
    have long : ((String.ofList (undashedId.toList ++ '"' :: rest.take 3)).toList.filter
        (fun c => decide (c ≠ '-'))).length ≠ 32 := by
      rw [String.toList_ofList, append_cons, filter_append, kept, length_append,
        length_append, digits, length_singleton]
      omega
    rw [uuidOfString, if_neg long]
  change String.ofList (digestChars
    (undashedTransaction.signingText platform).toList) = digest 'a' 0
  rw [digestChars, if_pos isId, taken, unread]
  rfl

theorem undashed_converted :
    ∃ row, transactionRow platform (relayService 1 none) undashedTransaction =
      .ok row ∧ row.id = 3 := by
  refine ⟨_, transactionRow_eq_ok_iff.mpr ⟨0, 3, platform.parseTs_isoformat 0,
    asUuid_undashed, rfl⟩, rfl⟩

/-- The transaction is accepted, and its stored form has another hash. -/
theorem undashed_identifier_changes_hash :
    let outcome := submitTransaction platform (relayService 1 none) relayStamps ⟨4, 0⟩
      undashedTransaction (some false) true (relayTables 1)
    outcome.result = .ok none ∧
      ∃ stored, stored ∈ outcome.state.transactions ∧
        platform.asUuid undashedTransaction.id = .ok stored.id ∧
        (rowToTx platform stored).computeHash platform ≠
          undashedTransaction.computeHash platform := by
  obtain ⟨row, converted, rowId⟩ := undashed_converted
  have submits : Submits platform (relayService 1 none) undashedTransaction true
      (relayTables 1) row := by
    have valid : TransactionValid platform true undashedTransaction :=
      signedWith_valid (by decide) rfl (by decide)
    refine submits_first (relayService_alone 1 none) (relayService_scoped 1) valid
      converted (by decide) (by decide) ?_ ?_ ?_
    · change (platform.publicKeyFromPrivate "u").length ≤ 128
      rw [platform.publicKey_length]
      decide
    · rw [rowId]
      decide
    · rw [sha256Hex_undashed]
      intro same
      rw [ComputeTransaction.computeHash, sha256Hex_signingText _ 1 rfl] at same
      exact absurd (digest_inj (by decide) (by decide) same).2 (by decide)
  intro outcome
  have run : outcome = _ := submitTransaction_of_submits (relayTables_begun 1) submits
  rw [run]
  refine ⟨rfl, row, mem_append_right _ (mem_singleton.mpr rfl), ?_, ?_⟩
  · rw [rowId]
    exact asUuid_undashed
  · rw [sha256Hex_undashed, ComputeTransaction.computeHash,
      sha256Hex_signingText (rowToTx platform row) row.id rfl, rowId]
    intro same
    exact absurd (digest_inj (by decide) (by decide) same).2 (by decide)

def attestation : ComputeTransaction :=
  ownTransaction platform "u" .jobSubmitted 1 [] ⟨3, 0⟩

/-- It survives its storage. -/
theorem attestation_survivesStorage :
    attestation.Canonical platform ∧
      ∃ stored, stored ∈ (submitTransaction platform (relayService 1 none) relayStamps
          ⟨4, 0⟩ attestation (some false) true (relayTables 1)).state.transactions ∧
        SurvivesStorage platform attestation (rowToTx platform stored) := by
  have canonical : attestation.Canonical platform :=
    ownTransaction_canonical platform "u" .jobSubmitted 1 [] ⟨3, 0⟩
  have submits : Submits platform (relayService 1 none) attestation true (relayTables 1) _ :=
    relay_submits .jobSubmitted []
  have accepted : (submitTransaction platform (relayService 1 none) relayStamps ⟨4, 0⟩
      attestation (some false) true (relayTables 1)).result = .ok none := by
    rw [submitTransaction_of_submits (relayTables_begun 1) submits]
  have separate : ∀ row,
      transactionRow platform (relayService 1 none) attestation = .ok row ->
        (rowToTx platform row).computeHash platform =
          attestation.computeHash platform ->
            (rowToTx platform row).signingText platform =
              attestation.signingText platform := by
    intro row converted _
    rw [attestation, transactionRow_own, Except.ok.injEq] at converted
    rw [← converted, rowToTx_own, attestation]
  obtain ⟨⟨stored, member, named⟩, exactly⟩ := submitted_survivesStorage_iff accepted separate
  exact ⟨canonical, stored, member, (exactly stored member named).mpr canonical⟩

end Ledger
end ZepGpu
