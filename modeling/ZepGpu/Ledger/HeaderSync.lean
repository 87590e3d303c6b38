import ZepGpu.Ledger.Commitment

namespace ZepGpu
namespace Ledger

open Foundation List
open Reference (platform)

/-!
# What a verified header chain shows

The verifier checks heights, links and signatures.  The links and signatures
are over the hash that each header claims to have, and the verifier never
computes that hash from the other fields.  Whoever can sign any text at all can
therefore have a header reported valid that does not have the hash it claims,
and the roots and the time of a header can be replaced without any effect on
the report.
-/

variable {F : Type} [Arithmetic F]

section HeaderSync

variable (P : Platform F)

/-- The claimed hash is the digest of the header's own fields. -/
def SelfHashed (header : BlockHeader) : Prop :=
  header.hash = .str (P.sha256Hex (P.canonicalJson (headerForHash header.height header.previousHash
    header.timestamp header.transactionsRoot header.stateRoot header.validator)))

/-- Heights count up from the expected one and every header names the hash of
the one before it. -/
def HeadersLinked : Int -> Option Json -> List BlockHeader -> Prop
  | _, _, [] => True
  | expected, previous, header :: rest =>
    header.height = expected ∧
      (∀ hash, previous = some hash -> hash.same header.previousHash = true) ∧
      HeadersLinked (expected + 1) (some header.hash) rest

/-- The signatures suffice, one of them unless the header is final. -/
def HeaderSigned (authorized : List String) (quorumThreshold : Nat) (header : BlockHeader) : Prop :=
  verifyHeaderSignatures P header authorized (if header.finalized then quorumThreshold else 1) =
    .ok ()

theorem catchValidation_eq_nil {attempt : Except PyError Unit} :
    catchValidation attempt = .ok [] ↔ attempt = .ok () := by
  cases attempt with
  | ok done => simp [catchValidation]
  | error error => cases error <;> simp [catchValidation]

variable {authorized : List String} {quorumThreshold : Nat}

theorem headerErrors_eq_nil_iff {expected : Int} {previous : Option Json}
    {headers : List BlockHeader} :
    headerErrors P authorized quorumThreshold expected previous headers = .ok [] ↔
      HeadersLinked expected previous headers ∧
        ∀ header, header ∈ headers -> HeaderSigned P authorized quorumThreshold header := by
  induction headers generalizing expected previous with
  | nil => simp [headerErrors, HeadersLinked]
  | cons header rest ih =>
    have link : (previous.any (fun hash => !hash.same header.previousHash) = true) ↔
        ¬ ∀ hash, previous = some hash -> hash.same header.previousHash = true := by
      cases previous with
      | none => simp
      | some hash => simp
    rw [headerErrors, forall_mem_cons]
    simp only [bind_eq_ok, Except.ok.injEq, append_eq_nil_iff, map_eq_nil_iff]
    constructor
    · rintro ⟨unsigned, signed, later, clean, ⟨⟨gap, unlinked⟩, rfl⟩, rfl⟩
      have atHeight : header.height = expected := by
        by_contra different
        rw [if_pos different] at gap
        exact absurd gap (cons_ne_nil _ _)
      have linked : ∀ hash, previous = some hash -> hash.same header.previousHash = true := by
        by_contra broken
        rw [if_pos (link.mpr broken)] at unlinked
        exact absurd unlinked (cons_ne_nil _ _)
      obtain ⟨restLinked, restSigned⟩ := ih.mp clean
      exact ⟨⟨atHeight, linked, restLinked⟩, catchValidation_eq_nil.mp signed, restSigned⟩
    · rintro ⟨⟨atHeight, linked, restLinked⟩, signed, restSigned⟩
      refine ⟨[], catchValidation_eq_nil.mpr signed, [], ih.mpr ⟨restLinked, restSigned⟩,
        ⟨⟨?_, ?_⟩, rfl⟩, rfl⟩
      · rw [if_neg (not_not.mpr atHeight)]
      · rw [if_neg (fun broken => link.mp broken linked)]

theorem verifyHeaderChain_valid_iff {headers : List BlockHeader} {genesisPrev : String}
    {fromHeight : Option Int} :
    (∃ report, verifyHeaderChain P headers authorized quorumThreshold genesisPrev fromHeight =
        .ok report ∧ report.valid = true) ↔
      HeadersLinked (startHeight headers fromHeight)
          (startLink (startHeight headers fromHeight) genesisPrev) (sortHeaders headers) ∧
        ∀ header, header ∈ headers -> HeaderSigned P authorized quorumThreshold header := by
  have sorted : ∀ header, header ∈ sortHeaders headers ↔ header ∈ headers := fun header =>
    (perm_insertionSort _ headers).mem_iff
  rw [verifyHeaderChain]
  cases headers with
  | nil =>
    rw [if_pos isEmpty_nil]
    exact ⟨fun _ => ⟨trivial, fun header impossible => absurd impossible not_mem_nil⟩,
      fun _ => ⟨_, rfl, rfl⟩⟩
  | cons first rest =>
    rw [if_neg (by simp)]
    simp only [bind_eq_ok, Except.ok.injEq]
    constructor
    · rintro ⟨report, ⟨errors, loop, rfl⟩, clean⟩
      rw [isEmpty_iff.mp clean] at loop
      obtain ⟨linked, signed⟩ := (headerErrors_eq_nil_iff P).mp loop
      exact ⟨linked, fun header member => signed header ((sorted header).mpr member)⟩
    · rintro ⟨linked, signed⟩
      exact ⟨_, ⟨[], (headerErrors_eq_nil_iff P).mpr ⟨linked, fun header member =>
        signed header ((sorted header).mp member)⟩, rfl⟩, rfl⟩

/-! ## Which validator sets the verifier serves -/

theorem headerSigned_of_proposer {header : BlockHeader} {key hash signature : String}
    (validator : header.validator = .str key) (hashText : header.hash = .str hash)
    (signatureText : header.validatorSignature = .str signature) (alone : header.approvals = [])
    (member : key ∈ authorized) (single : (if header.finalized then quorumThreshold else 1) = 1)
    (verified : P.verifySignature key hash signature = true) :
    HeaderSigned P authorized quorumThreshold header := by
  have textOr : ∀ text, orEmpty (some (.str text)) = .str text := by
    intro text
    by_cases empty : text = ""
    · simp [orEmpty, Json.truthy, empty]
    · simp [orEmpty, Json.truthy, empty]
  have counted : countHeaderApprovals P (.str hash) authorized []
      [.obj [("validator", .str key), ("signature", .str signature)]] = .ok [key] := by
    rw [countHeaderApprovals]
    simp [approvalGet, Dict.get?, textOr, memberOf, member, verifyReceived, verified,
      bind_eq_ok, raiseIf_eq_ok, countHeaderApprovals]
  rw [HeaderSigned, single, verifyHeaderSignatures, validator, hashText, signatureText, alone]
  simp [memberOf, member, Platform.str, verifyReceived, verified, anyApprovalBy, bind_eq_ok,
    raiseIf_eq_ok, counted]

theorem HeaderSigned.proposer {header : BlockHeader}
    (signed : HeaderSigned P authorized quorumThreshold header) :
    ∃ key hash signature, key ∈ authorized ∧ P.verifySignature key hash signature = true := by
  unfold HeaderSigned verifyHeaderSignatures at signed
  simp only [bind_eq_ok, raiseIf_eq_ok] at signed
  obtain ⟨known, member, _, listed, _, verified, _⟩ := signed
  cases validator : header.validator with
  | str key =>
    rw [validator] at member verified
    have isMember : key ∈ authorized := by
      by_contra outside
      exact listed ((Except.ok.inj member).symm.trans (decide_eq_false outside))
    unfold verifyReceived at verified
    split at verified
    · exact ⟨key, _, _, isMember, Bool.not_eq_false _ ▸ verified⟩
    · exact absurd rfl verified
  | null | bool | int | float =>
    rw [validator] at member
    exact absurd (Except.ok.inj member).symm listed
  | arr | obj =>
    rw [validator] at member
    cases member

/-- The digest of a header with empty roots, by its time. -/
def timeDigest (height : Int) (previousHash validator : String) (timestamp : Json) : String :=
  P.sha256Hex (P.canonicalJson (headerForHash height (.str previousHash) timestamp (.str zeroHash)
    (.str zeroHash) (.str validator)))

/-- A header with empty roots that carries some hash, and a signature over it. -/
def forgeHeader (height : Int) (previousHash key hash signature : String) (timestamp : Json) :
    BlockHeader where
  height := height
  hash := .str hash
  previousHash := .str previousHash
  timestamp := timestamp
  transactionsRoot := .str zeroHash
  stateRoot := .str zeroHash
  validator := .str key
  validatorSignature := .str signature
  finalized := false

theorem selfHashed_forgeHeader_iff {height : Int} {previousHash key hash signature : String}
    {timestamp : Json} :
    SelfHashed P (forgeHeader height previousHash key hash signature timestamp) ↔
      hash = timeDigest P height previousHash key timestamp :=
  ⟨Json.str.inj, congrArg Json.str⟩

theorem forgeHeader_accepted {key hash signature : String} (quorumThreshold : Nat)
    (genesisPrev : String) (fromHeight : Option Int) (timestamp : Json) (member : key ∈ authorized)
    (verified : P.verifySignature key hash signature = true) :
    ∃ report, verifyHeaderChain P
      [forgeHeader (fromHeight.getD 0) genesisPrev key hash signature timestamp] authorized
        quorumThreshold genesisPrev fromHeight = .ok report ∧ report.valid = true := by
  have start : startHeight [forgeHeader (fromHeight.getD 0) genesisPrev key hash signature timestamp]
      fromHeight = fromHeight.getD 0 := by
    cases fromHeight with
    | none => rfl
    | some height => rfl
  rw [verifyHeaderChain_valid_iff, start]
  refine ⟨⟨rfl, ?_, trivial⟩, ?_⟩
  · intro link expected
    unfold startLink at expected
    split_ifs at expected with genesis
    cases expected
    exact Json.same_str_iff.mpr rfl
  · intro header listed
    rw [mem_singleton.mp listed]
    exact headerSigned_of_proposer P rfl rfl rfl rfl member rfl verified

/-- The verifier is sound for a set of validators exactly when none of them can sign:
a valid report then has no header.  A single signature, over any hash, is enough for a
header that does not have that hash.  Of the digests it is only asked that some two
times of a header have different ones. -/
theorem headerChain_sound_iff (authorized : List String) (quorumThreshold : Nat)
    (genesisPrev : String) (fromHeight : Option Int)
    (timed : ∀ key, key ∈ authorized -> ∃ early late,
      timeDigest P (fromHeight.getD 0) genesisPrev key early ≠
        timeDigest P (fromHeight.getD 0) genesisPrev key late) :
    (∀ headers, (∃ report, verifyHeaderChain P headers authorized quorumThreshold
        genesisPrev fromHeight = .ok report ∧ report.valid = true) ->
      ∀ header, header ∈ headers -> SelfHashed P header) ↔
    ∀ key, key ∈ authorized -> ∀ hash signature,
      P.verifySignature key hash signature = false := by
  constructor
  · intro sound key member hash signature
    by_contra verified
    rw [Bool.not_eq_false] at verified
    have digests : ∀ timestamp, hash = timeDigest P (fromHeight.getD 0) genesisPrev key
        timestamp := fun timestamp =>
      (selfHashed_forgeHeader_iff P).mp (sound _ (forgeHeader_accepted P quorumThreshold genesisPrev
        fromHeight timestamp member verified) _ (mem_singleton.mpr rfl))
    obtain ⟨early, late, different⟩ := timed key member
    exact different ((digests early).symm.trans (digests late))
  · intro silent headers valid header listed
    obtain ⟨_, signed⟩ := (verifyHeaderChain_valid_iff P).mp valid
    obtain ⟨key, hash, signature, member, verified⟩ := (signed header listed).proposer
    rw [silent key member hash signature] at verified
    cases verified

/-! ## Fields that are never read -/

/-- Replace the fields of a header that only its hash would protect. -/
def BlockHeader.alter (header : BlockHeader) (timestamp transactionsRoot stateRoot : Json) :
    BlockHeader :=
  { header with
    timestamp := timestamp, transactionsRoot := transactionsRoot, stateRoot := stateRoot }

theorem headersLinked_map {change : BlockHeader -> BlockHeader}
    (heights : ∀ header, (change header).height = header.height)
    (hashes : ∀ header, (change header).hash = header.hash)
    (links : ∀ header, (change header).previousHash = header.previousHash) (expected : Int)
    (previous : Option Json) (headers : List BlockHeader) :
    HeadersLinked expected previous (headers.map change) ↔
      HeadersLinked expected previous headers := by
  induction headers generalizing expected previous with
  | nil => rfl
  | cons header rest ih =>
    rw [map_cons, HeadersLinked, HeadersLinked, heights, hashes, links, ih]

/-- The verdict on a list of headers does not depend on the fields that only their
hashes cover. -/
theorem verifyHeaderChain_alter_iff {change : BlockHeader -> BlockHeader}
    (altered : ∀ header, change header = header.alter (change header).timestamp
      (change header).transactionsRoot (change header).stateRoot)
    {headers : List BlockHeader} {authorized : List String} {quorumThreshold : Nat}
    {genesisPrev : String} {fromHeight : Option Int} :
    (∃ report, verifyHeaderChain P (headers.map change) authorized quorumThreshold genesisPrev
        fromHeight = .ok report ∧ report.valid = true) ↔
      ∃ report, verifyHeaderChain P headers authorized quorumThreshold genesisPrev fromHeight =
        .ok report ∧ report.valid = true := by
  have heights : ∀ header, (change header).height = header.height := fun header =>
    (congrArg BlockHeader.height (altered header)).trans rfl
  have hashes : ∀ header, (change header).hash = header.hash := fun header =>
    (congrArg BlockHeader.hash (altered header)).trans rfl
  have links : ∀ header, (change header).previousHash = header.previousHash := fun header =>
    (congrArg BlockHeader.previousHash (altered header)).trans rfl
  have signed : ∀ header, HeaderSigned P authorized quorumThreshold (change header) ↔
      HeaderSigned P authorized quorumThreshold header := by
    intro header
    rw [altered header]
    rfl
  have sorted : sortHeaders (headers.map change) = (sortHeaders headers).map change := by
    refine (map_insertionSort (fun left right : BlockHeader => left.height ≤ right.height)
      (fun left right : BlockHeader => left.height ≤ right.height) change headers ?_).symm
    intro left _ right _
    rw [heights, heights]
  have start : startHeight (headers.map change) fromHeight = startHeight headers fromHeight := by
    rw [startHeight, startHeight, sorted, head?_map]
    cases (sortHeaders headers).head? with
    | none => rfl
    | some header =>
      rw [Option.map_some, Option.elim_some, Option.elim_some, heights]
  rw [verifyHeaderChain_valid_iff, verifyHeaderChain_valid_iff, start, sorted,
    headersLinked_map heights hashes links, forall_mem_map]
  simp only [signed]

end HeaderSync

/-! ### A signed header with a made-up hash -/

/-- A genesis header that claims the zero hash, signed by the sample
validator. -/
def forgedHeader : BlockHeader where
  height := 0
  hash := .str zeroHash
  previousHash := .str zeroHash
  timestamp := .str (platform.isoformat 0)
  transactionsRoot := .str zeroHash
  stateRoot := .str zeroHash
  validator := .str sampleKeys.2
  validatorSignature := .str (platform.signMessage sampleKeys.1 zeroHash)

theorem forgedHeader_accepted :
    ∃ report, verifyHeaderChain platform [forgedHeader] [sampleKeys.2] 1 zeroHash none =
      .ok report ∧ report.valid = true := by
  rw [verifyHeaderChain_valid_iff]
  refine ⟨⟨rfl, ?_, trivial⟩, ?_⟩
  · intro hash same
    cases same
    exact Json.same_str_iff.mpr rfl
  · intro header member
    rw [mem_singleton.mp member]
    exact headerSigned_of_proposer platform rfl rfl rfl rfl (mem_singleton.mpr rfl) rfl
      (platform.verify_sign _ _)

/-- It is accepted with any other time and roots as well. -/
theorem forgedHeader_altered_accepted :
    ∃ report, verifyHeaderChain platform
      ([forgedHeader].map (fun header => header.alter .null (.str "root") (.str "state")))
        [sampleKeys.2] 1 zeroHash none = .ok report ∧ report.valid = true :=
  (verifyHeaderChain_alter_iff platform (fun _ => rfl)).mpr forgedHeader_accepted

theorem timeDigest_sample (time : Instant) :
    timeDigest platform 0 zeroHash sampleKeys.2 (.str (platform.isoformat time)) =
      Reference.digest 'b' time.val :=
  Reference.sha256Hex_headerText
    { height := 0, previousHash := zeroHash, transactions := [], validator := sampleKeys.2,
      timestamp := platform.isoformat time, id := "", transactionsRoot := zeroHash,
      stateRoot := zeroHash } time zeroHash_isHex zeroHash_isHex rfl

/-- The verifier is not sound for the sample validator. -/
theorem sampleValidator_unsound :
    ¬ ∀ headers, (∃ report, verifyHeaderChain platform headers [sampleKeys.2] 1
        zeroHash none = .ok report ∧ report.valid = true) ->
      ∀ header, header ∈ headers -> SelfHashed platform header := by
  have timed : ∀ key, key ∈ [sampleKeys.2] -> ∃ early late,
      timeDigest platform 0 zeroHash key early ≠
        timeDigest platform 0 zeroHash key late := by
    intro key member
    rw [mem_singleton.mp member]
    refine ⟨.str (platform.isoformat 0), .str (platform.isoformat 1), ?_⟩
    rw [timeDigest_sample, timeDigest_sample]
    exact fun same => absurd (congrArg String.toList same) (by decide)
  intro sound
  have silent := (headerChain_sound_iff platform [sampleKeys.2] 1 zeroHash none timed).mp
    sound sampleKeys.2 (mem_singleton.mpr rfl) zeroHash
    (platform.signMessage sampleKeys.1 zeroHash)
  exact absurd (silent.symm.trans (platform.verify_sign _ _)) Bool.false_ne_true

/-- The verifier reports the forged header valid, though its fields do not
hash to the zero hash. -/
theorem forged_header_reported_valid :
    (∃ report, verifyHeaderChain platform [forgedHeader] [sampleKeys.2] 1 zeroHash
        none = .ok report ∧ report.valid = true) ∧
      ¬ ∀ header, header ∈ [forgedHeader] -> SelfHashed platform header := by
  refine ⟨forgedHeader_accepted, fun hashed => ?_⟩
  have claimed := Json.str.inj (hashed forgedHeader (mem_singleton.mpr rfl))
  have zero : zeroHash = Reference.digest 'b' 0 := claimed.trans (timeDigest_sample 0)
  exact absurd (congrArg (fun text => text.toList.head?) zero) (by decide)

end Ledger
end ZepGpu
