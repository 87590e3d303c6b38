import ZepGpu.Ledger.LightClient
import ZepGpu.Ledger.Proposal
import ZepGpu.Ledger.Reference

namespace ZepGpu
namespace Ledger

open Foundation MerkleTree List
open Reference

/-!
# What a block hash commits to

Two questions about the hash of a valid block are settled here: whether it
determines the sequence of transactions, and whether an accepted inclusion
proof shows a transaction at the position it names.  In both, digests are
assumed not to collide on the texts that the blocks and the proof really hash.

The tree repeats an odd last node, so a block and the block with its last
transaction repeated can share a hash.  The number of transactions, or the
absence of repetitions, restores the commitment.

An inclusion proof carries an index that its verification never reads, and
its leaf may be any text.  An accepted proof leads from some node of the tree
to the root; it shows the transaction at its index exactly when it starts at
leaf level and its sides lead to that transaction.
-/

variable {F : Type} [Arithmetic F]

section Commitment

variable (P : Platform F)

/-- No two of the texts have the same digest. -/
def CollisionFree (texts : List String) : Prop :=
  ∀ left, left ∈ texts -> ∀ right, right ∈ texts ->
    P.sha256Hex left = P.sha256Hex right -> left = right

instance (texts : List String) : Decidable (CollisionFree P texts) :=
  inferInstanceAs (Decidable (∀ left, left ∈ texts -> ∀ right, right ∈ texts ->
    P.sha256Hex left = P.sha256Hex right -> left = right))

def pairTexts (pairs : List (String × String)) : List String :=
  pairs.map (fun pair => pair.1 ++ pair.2)

def hashedTexts (block : ComputeBlock) : List String :=
  block.headerText P :: (block.transactions.map (fun tx => tx.signingText P) ++
    pairTexts (MerkleTree.treePairs (hashPair P) (block.leafHashes P)))

theorem CollisionFree.mono {texts more : List String} (free : CollisionFree P more)
    (inside : texts ⊆ more) : CollisionFree P texts :=
  fun left leftMember right rightMember =>
    free left (inside leftMember) right (inside rightMember)

variable {block : ComputeBlock}

theorem leaf_isHex {leaf : String} (member : leaf ∈ block.leafHashes P) : IsHexDigest leaf := by
  obtain ⟨tx, _, rfl⟩ := mem_map.mp member
  exact P.sha256Hex_isHex _

theorem treePair_isHex {pair : String × String}
    (member : pair ∈ MerkleTree.treePairs (hashPair P) (block.leafHashes P)) :
    IsHexDigest pair.1 ∧ IsHexDigest pair.2 :=
  treePairs_forall (hashPair P) (hashPair_isHex P) (block.leafHashes P)
    (fun _ leafMember => leaf_isHex P leafMember) pair member

theorem signingText_braces (tx : ComputeTransaction) :
    ∃ body, (tx.signingText P).toList = '{' :: (body ++ ['}']) :=
  P.canonicalJson_obj _

theorem leaf_ne_hashPair {texts : List String} {leaf left right : String}
    (free : CollisionFree P texts) (covers : hashedTexts P block ⊆ texts)
    (hashed : left ++ right ∈ texts) (member : leaf ∈ block.leafHashes P)
    (digest : IsHexDigest left ∨ IsHexDigest right) : leaf ≠ hashPair P left right := by
  intro same
  obtain ⟨tx, txMember, rfl⟩ := mem_map.mp member
  obtain ⟨body, braces⟩ := signingText_braces P tx
  have signed : tx.signingText P ∈ texts := by
    apply covers
    exact mem_cons_of_mem _ (mem_append_left _ (mem_map_of_mem txMember))
  have texts_eq := free _ signed _ hashed same
  rcases digest with front | back
  · exact brace_ne_digest_append braces front texts_eq
  · exact brace_ne_append_digest braces back texts_eq

theorem pairText_mem_hashedTexts {pair : String × String}
    (member : pair ∈ MerkleTree.treePairs (hashPair P) (block.leafHashes P)) :
    pair.1 ++ pair.2 ∈ hashedTexts P block :=
  mem_cons_of_mem _ (mem_append_right _
    (mem_map_of_mem (f := fun pair : String × String => pair.1 ++ pair.2) member))

theorem transactionsRoot_eq_of_same_hash {left right : ComputeBlock}
    {leftCheck rightCheck : BlockCheck} (leftValid : BlockValid P leftCheck left)
    (rightValid : BlockValid P rightCheck right) (sameHash : left.hash = right.hash)
    (free : CollisionFree P (hashedTexts P left ++ hashedTexts P right)) :
    merkleRoot P (left.leafHashes P) = merkleRoot P (right.leafHashes P) := by
  have digests : P.sha256Hex (left.headerText P) = P.sha256Hex (right.headerText P) := by
    have leftHash := leftValid.hash
    have rightHash := rightValid.hash
    rw [ComputeBlock.computeHash] at leftHash rightHash
    rw [← leftHash, ← rightHash, sameHash]
  have headers := free _ (mem_append_left _ mem_cons_self) _
    (mem_append_right _ mem_cons_self) digests
  rw [← leftValid.root, ← rightValid.root]
  exact (headerText_inj P headers).2.2.2.1

theorem treePairs_binding {left right : ComputeBlock}
    (free : CollisionFree P (hashedTexts P left ++ hashedTexts P right)) :
    ∀ p, p ∈ MerkleTree.treePairs (hashPair P) (left.leafHashes P) ->
      ∀ q, q ∈ MerkleTree.treePairs (hashPair P) (right.leafHashes P) ->
        hashPair P p.1 p.2 = hashPair P q.1 q.2 -> p = q := by
  intro p pMember q qMember same
  have texts := free _ (mem_append_left _ (pairText_mem_hashedTexts P pMember)) _
    (mem_append_right _ (pairText_mem_hashedTexts P qMember)) same
  have sizes : p.1.length = q.1.length := by
    rw [(treePair_isHex P pMember).1.1, (treePair_isHex P qMember).1.1]
  exact Prod.ext (append_inj_of_length (Or.inl sizes) texts).1
    (append_inj_of_length (Or.inl sizes) texts).2

/-- Two valid blocks with the same hash hold the same transaction hashes
exactly when they hold equally many.  Blocks that repeat no transaction hold
the same ones in any case. -/
theorem leafHashes_eq_iff_of_same_hash {left right leftPassed rightPassed : ComputeBlock}
    {leftCheck rightCheck : BlockCheck}
    (leftValid : validateBlock P left leftCheck = .ok leftPassed)
    (rightValid : validateBlock P right rightCheck = .ok rightPassed)
    (sameHash : left.hash = right.hash)
    (free : CollisionFree P (hashedTexts P left ++ hashedTexts P right)) :
    (left.leafHashes P = right.leafHashes P ↔
        left.transactions.length = right.transactions.length) ∧
      (left.transactions ≠ [] -> right.transactions ≠ [] -> (left.leafHashes P).Nodup ->
        (right.leafHashes P).Nodup -> left.leafHashes P = right.leafHashes P) := by
  have roots := transactionsRoot_eq_of_same_hash P ((validateBlock_eq_ok_iff P).mp leftValid).1
    ((validateBlock_eq_ok_iff P).mp rightValid).1 sameHash free
  have binding := treePairs_binding P free
  have leafCount : ∀ block : ComputeBlock,
      (block.leafHashes P).length = block.transactions.length := fun block => length_map ..
  have sameTree : left.leafHashes P ≠ [] -> right.leafHashes P ≠ [] ->
      MerkleTree.root (hashPair P) (left.leafHashes P) =
        MerkleTree.root (hashPair P) (right.leafHashes P) := by
    intro leftNonempty rightNonempty
    rw [root_eq_merkleRoot P leftNonempty, root_eq_merkleRoot P rightNonempty, roots]
  constructor
  · constructor
    · intro same
      rw [← leafCount left, ← leafCount right, same]
    · intro sameCount
      rw [← leafCount left, ← leafCount right] at sameCount
      by_cases empty : left.leafHashes P = []
      · rw [empty, length_nil] at sameCount
        rw [empty, length_eq_zero_iff.mp sameCount.symm]
      · have rightNonempty : right.leafHashes P ≠ [] := by
          intro rightEmpty
          rw [rightEmpty, length_nil] at sameCount
          exact empty (length_eq_zero_iff.mp sameCount)
        exact root_inj (hashPair P) sameCount binding (sameTree empty rightNonempty)
  · intro leftNonempty rightNonempty leftDistinct rightDistinct
    have leftLeaves : left.leafHashes P ≠ [] := fun empty => leftNonempty (map_eq_nil_iff.mp empty)
    have rightLeaves : right.leafHashes P ≠ [] :=
      fun empty => rightNonempty (map_eq_nil_iff.mp empty)
    refine root_inj_of_nodup (hashPair P) leftLeaves rightLeaves leftDistinct
      rightDistinct ?_ ?_ binding (sameTree leftLeaves rightLeaves)
    · intro leaf member p pMember
      exact leaf_ne_hashPair P free (subset_append_left _ _)
        (mem_append_right _ (pairText_mem_hashedTexts P pMember)) member
        (Or.inl (treePair_isHex P pMember).1)
    · intro leaf member p pMember
      exact leaf_ne_hashPair P free (subset_append_right _ _)
        (mem_append_left _ (pairText_mem_hashedTexts P pMember)) member
        (Or.inl (treePair_isHex P pMember).1)

def MerkleProof.path (proof : MerkleProof) : List (MerkleTree.Side × String) :=
  (pathOf proof.steps).getD []

def proofTexts (proof : MerkleProof) : List String :=
  pairTexts (MerkleTree.climbPairs (hashPair P) proof.leaf proof.path)

theorem length_pathOf {steps : List MerkleProofStep} {path : List (MerkleTree.Side × String)}
    (known : pathOf steps = some path) : path.length = steps.length := by
  induction steps generalizing path with
  | nil =>
    cases known
    rfl
  | cons step steps ih =>
    rw [pathOf] at known
    split at known
    · next side rest _ restKnown =>
        cases known
        rw [length_cons, length_cons, ih restKnown]
    · cases known

theorem verifyTxInclusion_eq_true {proof : MerkleProof}
    (accepted : verifyTxInclusion P (BlockHeader.fromBlock block) proof = .ok true) :
    proof.path.length = proof.steps.length ∧
      block.transactionsRoot = MerkleTree.climb (hashPair P) proof.leaf proof.path := by
  rw [verifyTxInclusion] at accepted
  split_ifs at accepted with sameRoot
  · rw [Json.same_str_iff] at sameRoot
    have roots : block.transactionsRoot = proof.root := Json.str.inj sameRoot
    rw [verifyMerkleProof] at accepted
    cases run : runSteps P proof.leaf proof.steps with
    | error error =>
      rw [run] at accepted
      cases accepted
    | ok running =>
      rw [run] at accepted
      have reached := of_decide_eq_true (Except.ok.inj accepted)
      rw [reached] at run
      obtain ⟨path, known, climbs⟩ := runSteps_eq_some P run
      rw [MerkleProof.path, known, Option.getD_some, length_pathOf known]
      exact ⟨rfl, roots.trans climbs⟩
  · cases accepted

theorem verifyTxInclusion_root (block : ComputeBlock) (index : Int) :
    verifyTxInclusion P (BlockHeader.fromBlock block)
      ⟨block.transactionsRoot, index, block.transactionsRoot, []⟩ = .ok true := by
  have sameRoot : (Json.str block.transactionsRoot).same
      (BlockHeader.fromBlock block).transactionsRoot = true := Json.same_str_iff.mpr rfl
  rw [verifyTxInclusion]
  refine (if_pos sameRoot).trans ?_
  rw [verifyMerkleProof, runSteps]
  exact congrArg Except.ok (decide_eq_true rfl)

section Inclusion

variable {P} {block : ComputeBlock} {proof : MerkleProof}

theorem climbPairs_binding (free : CollisionFree P (hashedTexts P block ++ proofTexts P proof))
    (sized : proof.leaf.length = 64) :
    ∀ p, p ∈ MerkleTree.treePairs (hashPair P) (block.leafHashes P) ->
      ∀ q, q ∈ MerkleTree.climbPairs (hashPair P) proof.leaf proof.path ->
        hashPair P q.1 q.2 = hashPair P p.1 p.2 -> q = p := by
  intro p pMember q qMember same
  have texts := free _ (mem_append_right _ (mem_map_of_mem
    (f := fun pair : String × String => pair.1 ++ pair.2) qMember)) _
    (mem_append_left _ (pairText_mem_hashedTexts P pMember)) same
  have halves := climbPairs_forall (hashPair P) (fun text => text.length = 64)
    (fun left right => (hashPair_isHex P left right).1) proof.leaf proof.path sized q qMember
  have sizes : q.1.length = p.1.length ∨ q.2.length = p.2.length := by
    rw [(treePair_isHex P pMember).1.1, (treePair_isHex P pMember).2.1]
    exact halves
  exact Prod.ext (append_inj_of_length sizes texts).1 (append_inj_of_length sizes texts).2

theorem length_path_of_leaf (free : CollisionFree P (hashedTexts P block ++ proofTexts P proof))
    (member : proof.leaf ∈ block.leafHashes P)
    (reaches : MerkleTree.root (hashPair P) (block.leafHashes P) =
      [MerkleTree.climb (hashPair P) proof.leaf proof.path]) :
    proof.path.length = Nat.clog 2 (block.leafHashes P).length := by
  have hex := leaf_isHex P member
  have binding := climbPairs_binding free hex.1
  rcases Nat.lt_trichotomy proof.path.length (Nat.clog 2 (block.leafHashes P).length) with
    short | full | long
  · -- a shorter path would start at an inner node
    obtain ⟨p, pMember, inner⟩ := climb_short (hashPair P) _ _ _ short binding reaches
    exact absurd inner (leaf_ne_hashPair P free (subset_append_left _ _)
      (mem_append_left _ (pairText_mem_hashedTexts P pMember)) member
      (Or.inl (treePair_isHex P pMember).1))
  · exact full
  · -- a longer path would make a transaction hash out of a pair
    obtain ⟨front, back, split, backSize⟩ : ∃ front back, proof.path = front ++ back ∧
        back.length = Nat.clog 2 (block.leafHashes P).length := by
      refine ⟨proof.path.take (proof.path.length - Nat.clog 2 (block.leafHashes P).length),
        proof.path.drop (proof.path.length - Nat.clog 2 (block.leafHashes P).length),
        (take_append_drop _ _).symm, ?_⟩
      rw [length_drop]
      omega
    have frontSize : 0 < front.length := by
      have total := congrArg List.length split
      rw [length_append] at total
      omega
    obtain ⟨before, last, frontEq⟩ : ∃ before last, front = before ++ [last] := by
      rcases eq_nil_or_concat front with empty | ⟨before, last, shape⟩
      · rw [empty] at frontSize
        exact absurd frontSize (by decide)
      · exact ⟨before, last, shape.trans concat_eq_append⟩
    have pairs : MerkleTree.climbPairs (hashPair P) proof.leaf proof.path =
        MerkleTree.climbPairs (hashPair P) proof.leaf before ++
          (MerkleTree.joinPair (MerkleTree.climb (hashPair P) proof.leaf before) last ::
            MerkleTree.climbPairs (hashPair P) (MerkleTree.climb (hashPair P) proof.leaf front)
              back) := by
      rw [split, frontEq, climbPairs_append, climbPairs_append, append_assoc]
      rfl
    rw [split, climb_append] at reaches
    have found := climb_binds (hashPair P) back _ _ (ne_nil_of_mem member) backSize
      (fun p pMember q qMember => binding p pMember q (by
        rw [pairs]
        exact mem_append_right _ (mem_cons_of_mem _ qMember))) reaches
    have joined : MerkleTree.climb (hashPair P) proof.leaf front =
        hashPair P (MerkleTree.joinPair (MerkleTree.climb (hashPair P) proof.leaf before) last).1
          (MerkleTree.joinPair (MerkleTree.climb (hashPair P) proof.leaf before) last).2 := by
      rw [frontEq, climb_append]
      exact join_eq (hashPair P) _ last
    have lastMember : MerkleTree.joinPair (MerkleTree.climb (hashPair P) proof.leaf before) last ∈
        MerkleTree.climbPairs (hashPair P) proof.leaf proof.path := by
      rw [pairs]
      exact mem_append_right _ mem_cons_self
    exact absurd joined (leaf_ne_hashPair P free (subset_append_left _ _)
      (mem_append_right _ (mem_map_of_mem
        (f := fun pair : String × String => pair.1 ++ pair.2) lastMember))
      (mem_of_getElem? found)
      (climbPairs_forall (hashPair P) IsHexDigest (hashPair_isHex P) proof.leaf
        proof.path hex _ lastMember))

end Inclusion

/-- An accepted proof shows the transaction hash at its index exactly when its
leaf has the length of a digest, it has one step for each level of the tree,
its index is in range, and its sides lead to a leaf with the hash at that
index. -/
theorem inclusion_sound_iff {block passed : ComputeBlock} {check : BlockCheck} {proof : MerkleProof}
    (valid : validateBlock P block check = .ok passed)
    (accepted : verifyTxInclusion P (BlockHeader.fromBlock block) proof = .ok true)
    (free : CollisionFree P (hashedTexts P block ++ proofTexts P proof)) :
    (0 ≤ proof.index ∧ (block.leafHashes P)[proof.index.toNat]? = some proof.leaf) ↔
      (proof.leaf.length = 64 ∧
        proof.steps.length = Nat.clog 2 block.transactions.length ∧
        0 ≤ proof.index ∧ proof.index < block.transactions.length ∧
        (block.leafHashes P)[MerkleTree.slot block.transactions.length
          (proof.path.map Prod.fst)]? = (block.leafHashes P)[proof.index.toNat]?) := by
  obtain ⟨pathSize, rootClimbs⟩ := verifyTxInclusion_eq_true P accepted
  have root := ((validateBlock_eq_ok_iff P).mp valid).1.root
  have leafCount : (block.leafHashes P).length = block.transactions.length := length_map ..
  have reaches : block.leafHashes P ≠ [] -> MerkleTree.root (hashPair P) (block.leafHashes P) =
      [MerkleTree.climb (hashPair P) proof.leaf proof.path] := by
    intro nonempty
    rw [root_eq_merkleRoot P nonempty, ← root, rootClimbs]
  have slotAt : block.leafHashes P ≠ [] -> proof.leaf.length = 64 ->
      proof.path.length = Nat.clog 2 (block.leafHashes P).length ->
      (block.leafHashes P)[MerkleTree.slot block.transactions.length
        (proof.path.map Prod.fst)]? = some proof.leaf := by
    intro nonempty sized full
    rw [← leafCount]
    exact climb_binds (hashPair P) _ _ _ nonempty full (climbPairs_binding free sized)
      (reaches nonempty)
  constructor
  · rintro ⟨natural, leafAt⟩
    have member := mem_of_getElem? leafAt
    have nonempty := ne_nil_of_mem member
    have sized := (leaf_isHex P member).1
    have full := length_path_of_leaf free member (reaches nonempty)
    have bound := (List.getElem?_eq_some_iff.mp leafAt).1
    refine ⟨sized, by rw [← pathSize, full, leafCount], natural, by omega, ?_⟩
    rw [slotAt nonempty sized full, leafAt]
  · rintro ⟨sized, full, natural, bound, sameLeaf⟩
    have nonempty : block.leafHashes P ≠ [] := by
      intro empty
      rw [empty, length_nil] at leafCount
      omega
    rw [← sameLeaf, slotAt nonempty sized (by rw [pathSize, full, leafCount])]
    exact ⟨natural, rfl⟩

end Commitment

def sampleKeys : String × String :=
  ("relay", platform.publicKeyFromPrivate "relay")

def sampleTransaction (nonce : Nat) : ComputeTransaction :=
  newSignedTransaction platform sampleKeys.1 .jobSubmitted nonce [] sampleKeys.2
    ⟨BitVec.ofNat 128 nonce, 0⟩

def sampleBlock (nonces : List Nat) : ComputeBlock :=
  proposeBlock platform sampleKeys 0 zeroHash (nonces.map sampleTransaction) {} ⟨0, 0⟩

def sampleCheck : BlockCheck where
  authorizedValidators := [sampleKeys.2]
  expectedPreviousHash := some zeroHash
  expectedHeight := some 0

theorem sampleTransaction_valid (requireSignature : Bool) (nonce : Nat) :
    TransactionValid platform requireSignature (sampleTransaction nonce) :=
  newSignedTransaction_valid platform requireSignature (Int.natCast_nonneg nonce)

theorem sampleBlock_valid (nonces : List Nat) :
    validateBlock platform (sampleBlock nonces) sampleCheck = .ok (sampleBlock nonces) := by
  refine validateBlock_proposeBlock platform rfl rfl (fun _ same => Option.some.inj same)
    (fun _ same => Option.some.inj same) (mem_singleton.mpr rfl) ?_
  intro tx member
  obtain ⟨nonce, _, rfl⟩ := mem_map.mp member
  exact sampleTransaction_valid _ nonce

theorem sampleTransaction_hash (nonce : Nat) (small : nonce < 2 ^ 128) :
    (sampleTransaction nonce).computeHash platform = digest 'a' nonce := by
  have idText : (sampleTransaction nonce).id =
      platform.strOfUuid (BitVec.ofNat 128 nonce) := by
    rw [sampleTransaction, newSignedTransaction]
  rw [ComputeTransaction.computeHash, sha256Hex_signingText _ _ idText,
    BitVec.toNat_ofNat, Nat.mod_eq_of_lt small]

theorem sampleBlock_hash (nonces : List Nat) :
    platform.sha256Hex ((sampleBlock nonces).headerText platform) =
      digest 'b' 0 := by
  rw [sampleBlock, proposeBlock_eq]
  exact sha256Hex_headerText _ 0 zeroHash_isHex (platform.sha256Hex_isHex _) rfl

theorem sampleBlock_leafHashes (nonces : List Nat) (small : ∀ nonce, nonce ∈ nonces ->
    nonce < 2 ^ 128) :
    (sampleBlock nonces).leafHashes platform =
      nonces.map (fun nonce => digest 'a' nonce) := by
  rw [sampleBlock, proposeBlock_eq]
  change (nonces.map sampleTransaction).map (fun tx => tx.computeHash platform) = _
  rw [map_map]
  exact map_congr_left (fun nonce member => sampleTransaction_hash nonce (small nonce member))

theorem sampleBlock_header :
    (sampleBlock [1, 2, 3, 3]).headerText platform =
      (sampleBlock [1, 2, 3]).headerText platform := by
  have roots := merkleRoot_repeat_last platform
    [(sampleTransaction 1).computeHash platform,
      (sampleTransaction 2).computeHash platform]
    ((sampleTransaction 3).computeHash platform) rfl (cons_ne_nil _ _)
  rw [sampleBlock, sampleBlock, proposeBlock_eq, proposeBlock_eq]
  simp only [ComputeBlock.headerText, draftBlock, map_cons, map_nil]
  simp only [cons_append, nil_append] at roots
  rw [roots]

theorem collisionFree_of_digests (texts : List String) (digests : List (Char × Nat))
    (small : ∀ entry, entry ∈ digests -> entry.2 < 16 ^ 63) (distinct : digests.Nodup)
    (images : texts.map platform.sha256Hex = digests.map (fun entry => digest entry.1 entry.2)) :
    CollisionFree platform texts := by
  have nodup : (texts.map platform.sha256Hex).Nodup := by
    rw [images]
    refine distinct.map_on ?_
    intro left leftMember right rightMember same
    obtain ⟨tags, values⟩ := digest_inj (small left leftMember) (small right rightMember) same
    exact Prod.ext tags values
  exact fun left leftMember right rightMember same =>
    inj_on_of_nodup_map nodup leftMember rightMember same

def sampleTexts : List String :=
  [(sampleBlock [1, 2, 3]).headerText platform,
    (sampleTransaction 1).signingText platform,
    (sampleTransaction 2).signingText platform,
    (sampleTransaction 3).signingText platform,
    digest 'a' 1 ++ digest 'a' 2,
    digest 'a' 3 ++ digest 'a' 3,
    digest 'c' 5 ++ digest 'c' 9]

theorem sampleTexts_collisionFree : CollisionFree platform sampleTexts := by
  refine collisionFree_of_digests sampleTexts
    [('b', 0), ('a', 1), ('a', 2), ('a', 3), ('c', 5), ('c', 9), ('c', 23)] (by decide) (by decide) ?_
  have hashes : ∀ nonce, nonce < 2 ^ 128 ->
      platform.sha256Hex ((sampleTransaction nonce).signingText platform) =
        digest 'a' nonce := sampleTransaction_hash
  simp only [sampleTexts, map_cons, map_nil, sampleBlock_hash]
  rw [hashes 1 (by decide), hashes 2 (by decide), hashes 3 (by decide),
    sha256Hex_pair (by decide) (by decide) (by decide),
    sha256Hex_pair (by decide) (by decide) (by decide),
    sha256Hex_pair (by decide) (by decide) (by decide)]

theorem sampleBlock_hashedTexts (nonces : List Nat)
    (odd : nonces = [1, 2, 3] ∨ nonces = [1, 2, 3, 3]) :
    hashedTexts platform (sampleBlock nonces) ⊆ sampleTexts := by
  have small : ∀ nonce, nonce ∈ nonces -> nonce < 2 ^ 128 := by
    rcases odd with rfl | rfl
    · decide
    · decide
  have header : (sampleBlock nonces).headerText platform =
      (sampleBlock [1, 2, 3]).headerText platform := by
    rcases odd with rfl | rfl
    · rfl
    · exact sampleBlock_header
  have pairs : MerkleTree.treePairs (hashPair platform)
      (nonces.map (fun nonce => digest 'a' nonce)) =
      [(digest 'a' 1, digest 'a' 2),
        (digest 'a' 3, digest 'a' 3),
        (hashPair platform (digest 'a' 1) (digest 'a' 2),
          hashPair platform (digest 'a' 3) (digest 'a' 3))] := by
    rcases odd with rfl | rfl
    · rfl
    · rfl
  have signed : (sampleBlock nonces).transactions = nonces.map sampleTransaction := by
    rw [sampleBlock, proposeBlock_eq]
    rfl
  rw [hashedTexts, sampleBlock_leafHashes nonces small, header, pairs, signed]
  rw [hashPair, hashPair, sha256Hex_pair (by decide) (by decide) (by decide),
    sha256Hex_pair (by decide) (by decide) (by decide)]
  rcases odd with rfl | rfl
  · simp [sampleTexts, pairTexts]
  · simp [sampleTexts, pairTexts]

theorem sampleBlocks_collisionFree :
    CollisionFree platform (hashedTexts platform (sampleBlock [1, 2, 3]) ++
      hashedTexts platform (sampleBlock [1, 2, 3, 3])) :=
  sampleTexts_collisionFree.mono platform (append_subset.mpr
    ⟨sampleBlock_hashedTexts _ (Or.inl rfl), sampleBlock_hashedTexts _ (Or.inr rfl)⟩)

theorem sampleBlocks_hash : (sampleBlock [1, 2, 3]).hash = (sampleBlock [1, 2, 3, 3]).hash := by
  have short := ((validateBlock_eq_ok_iff platform).mp (sampleBlock_valid [1, 2, 3])).1
  have long := ((validateBlock_eq_ok_iff platform).mp (sampleBlock_valid [1, 2, 3, 3])).1
  rw [short.hash, long.hash, ComputeBlock.computeHash, ComputeBlock.computeHash, sampleBlock_header]

/-- Two blocks with one hash that differ in the repeated last transaction. -/
theorem leafHashes_of_sampleBlocks_iff :
    (sampleBlock [1, 2, 3]).leafHashes platform =
        (sampleBlock [1, 2, 3, 3]).leafHashes platform ↔
      (sampleBlock [1, 2, 3]).transactions.length =
        (sampleBlock [1, 2, 3, 3]).transactions.length :=
  (leafHashes_eq_iff_of_same_hash platform (sampleBlock_valid _) (sampleBlock_valid _)
    sampleBlocks_hash sampleBlocks_collisionFree).1

/-- Three transactions and the same three with the last one repeated make two
valid blocks with one hash. -/
theorem repeated_transaction_shares_hash :
    validateBlock platform (sampleBlock [1, 2, 3]) sampleCheck =
        .ok (sampleBlock [1, 2, 3]) ∧
      validateBlock platform (sampleBlock [1, 2, 3, 3]) sampleCheck =
        .ok (sampleBlock [1, 2, 3, 3]) ∧
      (sampleBlock [1, 2, 3]).hash = (sampleBlock [1, 2, 3, 3]).hash ∧
      CollisionFree platform (hashedTexts platform (sampleBlock [1, 2, 3]) ++
        hashedTexts platform (sampleBlock [1, 2, 3, 3])) ∧
      (sampleBlock [1, 2, 3]).leafHashes platform ≠
        (sampleBlock [1, 2, 3, 3]).leafHashes platform := by
  refine ⟨sampleBlock_valid _, sampleBlock_valid _, sampleBlocks_hash,
    sampleBlocks_collisionFree, ?_⟩
  intro same
  have sizes := congrArg List.length same
  rw [sampleBlock_leafHashes _ (by decide), sampleBlock_leafHashes _ (by decide)] at sizes
  exact absurd sizes (by decide)

def rootProof : MerkleProof where
  leaf := (sampleBlock [1, 2, 3]).transactionsRoot
  index := 7
  root := (sampleBlock [1, 2, 3]).transactionsRoot
  steps := []

theorem rootProof_accepted :
    verifyTxInclusion platform (BlockHeader.fromBlock (sampleBlock [1, 2, 3])) rootProof =
      .ok true :=
  verifyTxInclusion_root platform (sampleBlock [1, 2, 3]) 7

theorem rootProof_collisionFree :
    CollisionFree platform (hashedTexts platform (sampleBlock [1, 2, 3]) ++
      proofTexts platform rootProof) :=
  sampleTexts_collisionFree.mono platform (append_subset.mpr
    ⟨sampleBlock_hashedTexts _ (Or.inl rfl), nil_subset _⟩)

/-- The root itself, offered as a leaf. -/
theorem inclusion_of_rootProof_iff :
    (0 ≤ rootProof.index ∧ ((sampleBlock [1, 2, 3]).leafHashes
        platform)[rootProof.index.toNat]? = some rootProof.leaf) ↔
      (rootProof.leaf.length = 64 ∧
        rootProof.steps.length = Nat.clog 2 (sampleBlock [1, 2, 3]).transactions.length ∧
        0 ≤ rootProof.index ∧ rootProof.index < (sampleBlock [1, 2, 3]).transactions.length ∧
        ((sampleBlock [1, 2, 3]).leafHashes platform)[MerkleTree.slot
            (sampleBlock [1, 2, 3]).transactions.length (rootProof.path.map Prod.fst)]? =
          ((sampleBlock [1, 2, 3]).leafHashes platform)[rootProof.index.toNat]?) :=
  inclusion_sound_iff platform (sampleBlock_valid _) rootProof_accepted
    rootProof_collisionFree

/-- The root of a valid block is accepted as its transaction number seven,
though the block has three transactions. -/
theorem root_accepted_as_transaction :
    validateBlock platform (sampleBlock [1, 2, 3]) sampleCheck =
        .ok (sampleBlock [1, 2, 3]) ∧
      verifyTxInclusion platform (BlockHeader.fromBlock (sampleBlock [1, 2, 3]))
        rootProof = .ok true ∧
      CollisionFree platform (hashedTexts platform (sampleBlock [1, 2, 3]) ++
        proofTexts platform rootProof) ∧
      ¬ (0 ≤ rootProof.index ∧ ((sampleBlock [1, 2, 3]).leafHashes
        platform)[rootProof.index.toNat]? = some rootProof.leaf) := by
  refine ⟨sampleBlock_valid _, rootProof_accepted, rootProof_collisionFree, ?_⟩
  rintro ⟨_, leafAt⟩
  rw [sampleBlock_leafHashes _ (by decide)] at leafAt
  cases leafAt

end Ledger
end ZepGpu
