import ZepGpu.Ledger.Reference

namespace ZepGpu
namespace Ledger

open Foundation MerkleTree List
open Reference (platform)

/-!
# The loops that build roots and proofs

The root and the proof build the levels of the tree in loops of their own.
Each loop appends a copy of the last node to an odd level, hashes the nodes
pairwise, and goes on until one node is left.  A text that is not ASCII stops
the hashing with an exception; leaves are meant to be hexadecimal digests, and
are ASCII then.

On ASCII leaves both loops build the levels of `MerkleTree`, and the sibling
that the loop of the proof takes from the padded level is the sibling of the
tree.
-/

variable {F : Type} [Arithmetic F]

section Loops

variable (P : Platform F)

/-- `_hash_pair` -/
def hashPairAscii (left right : String) : Except PyError String := do
  raiseIf (isAscii (left ++ right) = false) (.valueError "ordinal not in range(128)")
  .ok (hashPair P left right)

/-- `if len(level) % 2 == 1: level.append(level[-1])` -/
def padded (level : List String) : List String :=
  if level.length % 2 = 1 then level ++ level.getLast?.toList else level

/-- `for i in range(0, len(level), 2)` -/
def hashLevel : List String -> Except PyError (List String)
  | left :: right :: rest => do
      let parent ← hashPairAscii P left right
      let parents ← hashLevel rest
      .ok (parent :: parents)
  | _ => .ok []

/-- The loop of `merkle_root`.  Every level is shorter than the one below it,
so the number of leaves bounds the number of rounds. -/
def rootLoop : Nat -> List String -> Except PyError (List String)
  | 0, level => .ok level
  | fuel + 1, level =>
    if 1 < level.length then hashLevel P (padded level) >>= rootLoop fuel else .ok level

/-- `merkle_root` -/
def merkleRootLoop (leaves : List String) : Except PyError String := do
  if leaves = [] then .ok zeroHash
  else
    let level ← rootLoop P leaves.length leaves
    .ok (level.headD "")

def siblingStep (level : List String) (index : Nat) : MerkleProofStep :=
  if index % 2 = 0 then ⟨level.getD (index + 1) "", "right"⟩
  else ⟨level.getD (index - 1) "", "left"⟩

/-- The loop of `merkle_proof`, with the steps it collects. -/
def proofLoop : Nat -> List String -> Nat -> Except PyError (List MerkleProofStep × List String)
  | 0, level, _ => .ok ([], level)
  | fuel + 1, level, index =>
    if 1 < level.length then do
      let next ← hashLevel P (padded level)
      let above ← proofLoop fuel next (index / 2)
      .ok (siblingStep (padded level) index :: above.1, above.2)
    else .ok ([], level)

/-- `merkle_proof` -/
def merkleProofLoop (leaves : List String) (index : Int) : Except PyError MerkleProof := do
  raiseIf (leaves = []) (.valueError "Cannot build proof for empty leaf set")
  raiseIf (index < 0 ∨ (leaves.length : Int) ≤ index) (.indexError "Leaf index out of range")
  let built ← proofLoop P leaves.length leaves index.toNat
  .ok {
    leaf := leaves.getD index.toNat ""
    index := index
    root := built.2.headD ""
    steps := built.1 }

/-! ## One level -/

variable {P}

theorem isAscii_append {left right : String} :
    isAscii (left ++ right) = true ↔ isAscii left = true ∧ isAscii right = true := by
  rw [isAscii, isAscii, isAscii, String.toList_append, all_append, Bool.and_eq_true]

theorem isAscii_sha256Hex (data : String) : isAscii (P.sha256Hex data) = true := by
  have small : ∀ c, c ∈ "0123456789abcdef".toList -> c.toNat < 128 := Json.forall_of_all (by decide)
  rw [isAscii, all_eq_true]
  intro c member
  exact decide_eq_true (small c ((P.sha256Hex_isHex data).2 c member))

theorem hashPairAscii_eq_ok {left right parent : String} :
    hashPairAscii P left right = .ok parent ↔
      (isAscii left = true ∧ isAscii right = true) ∧ hashPair P left right = parent := by
  rw [hashPairAscii, raiseIf_bind_eq_ok, Bool.not_eq_false, isAscii_append]
  exact and_congr Iff.rfl ⟨Except.ok.inj, congrArg Except.ok⟩

theorem padded_of_pair (left right : String) (rest : List String) :
    padded (left :: right :: rest) = left :: right :: padded rest := by
  have parity : (left :: right :: rest).length % 2 = rest.length % 2 := by
    rw [length_cons, length_cons]
    omega
  rw [padded, padded, parity]
  by_cases odd : rest.length % 2 = 1
  · rw [if_pos odd, if_pos odd]
    cases rest with
    | nil => cases odd
    | cons node others => rfl
  · rw [if_neg odd, if_neg odd]

theorem hashLevel_padded {level next : List String} :
    hashLevel P (padded level) = .ok next ↔
      (∀ node, node ∈ level -> isAscii node = true) ∧
        MerkleTree.pairUp (hashPair P) level = next := by
  induction level using MerkleTree.pairUp.induct generalizing next with
  | case1 => simp [padded, hashLevel, MerkleTree.pairUp]
  | case2 last =>
    have shape : padded [last] = [last, last] := rfl
    rw [shape, hashLevel, bind_eq_ok]
    simp only [hashPairAscii_eq_ok, hashLevel, MerkleTree.pairUp, mem_singleton, forall_eq,
      and_self]
    constructor
    · rintro ⟨parent, ⟨ascii, rfl⟩, same⟩
      exact ⟨ascii, Except.ok.inj same⟩
    · rintro ⟨ascii, rfl⟩
      exact ⟨_, ⟨ascii, rfl⟩, rfl⟩
  | case3 left right rest ih =>
    rw [padded_of_pair, hashLevel, bind_eq_ok]
    simp only [hashPairAscii_eq_ok, bind_eq_ok, ih, MerkleTree.pairUp, forall_mem_cons]
    constructor
    · rintro ⟨parent, ⟨ascii, rfl⟩, parents, ⟨below, rfl⟩, same⟩
      exact ⟨⟨ascii.1, ascii.2, below⟩, Except.ok.inj same⟩
    · rintro ⟨⟨first, second, below⟩, rfl⟩
      exact ⟨_, ⟨⟨first, second⟩, rfl⟩, _, ⟨below, rfl⟩, rfl⟩

theorem getElem?_padded (level : List String) (index : Nat) :
    (padded level)[index]? =
      if index = level.length ∧ level.length % 2 = 1 then level.getLast? else level[index]? := by
  rw [padded]
  by_cases odd : level.length % 2 = 1
  · rw [if_pos odd]
    rcases Nat.lt_trichotomy index level.length with inside | rfl | outside
    · rw [getElem?_append_left inside, if_neg (by omega)]
    · rw [getElem?_append_right (Nat.le_refl _), Nat.sub_self, if_pos ⟨rfl, odd⟩]
      cases level.getLast? <;> rfl
    · have short : level.getLast?.toList.length ≤ 1 := by
        cases level.getLast? <;> simp
      rw [getElem?_eq_none (by rw [length_append]; omega), if_neg (by omega),
        getElem?_eq_none (by omega)]
  · rw [if_neg odd, if_neg (by omega)]

theorem siblingStep_padded {level : List String} {index : Nat} (inside : index < level.length) :
    siblingStep (padded level) index = .ofSide (MerkleTree.siblingOf level index) := by
  rw [siblingStep, MerkleTree.siblingOf]
  by_cases even : index % 2 = 0
  · rw [if_pos even, if_pos even, MerkleProofStep.ofSide, getD_eq_getElem?_getD, getElem?_padded]
    by_cases last : index + 1 = level.length
    · have lastNode : level.getLast? = some level[index] := by
        rw [getLast?_eq_getElem?, ← last, Nat.add_sub_cancel, getElem?_eq_getElem inside]
      rw [if_pos ⟨last, by omega⟩, lastNode, getElem?_eq_none (by omega),
        getElem?_eq_getElem inside]
      rfl
    · rw [if_neg (by omega), getElem?_eq_getElem (by omega : index + 1 < level.length)]
      rfl
  · rw [if_neg even, if_neg even, MerkleProofStep.ofSide, getD_eq_getElem?_getD,
      getElem?_padded, if_neg (by omega)]
    rfl

/-! ## The loops -/

/-- The leaves on which the loops run to their end: a single leaf is not hashed. -/
def Hashable (level : List String) : Prop :=
  1 < level.length -> ∀ node, node ∈ level -> isAscii node = true

theorem hashable_pairUp (level : List String) : Hashable (MerkleTree.pairUp (hashPair P) level) := by
  intro _
  exact pairUp_forall (hashPair P) (fun left right => isAscii_sha256Hex (left ++ right)) level

theorem rootLoop_eq_ok {fuel : Nat} {level top : List String} :
    rootLoop P fuel level = .ok top ↔
      (0 < fuel -> Hashable level) ∧ MerkleTree.collapse (hashPair P) fuel level = top := by
  induction fuel generalizing level top with
  | zero =>
    rw [rootLoop, MerkleTree.collapse]
    exact ⟨fun same => ⟨fun impossible => absurd impossible (by decide), Except.ok.inj same⟩,
      fun same => congrArg Except.ok same.2⟩
  | succ fuel ih =>
    rw [rootLoop, MerkleTree.collapse]
    by_cases several : 1 < level.length
    · rw [if_pos several, if_pos several, bind_eq_ok]
      constructor
      · rintro ⟨next, hashed, looped⟩
        obtain ⟨ascii, rfl⟩ := hashLevel_padded.mp hashed
        exact ⟨fun _ _ => ascii, (ih.mp looped).2⟩
      · rintro ⟨hashable, collapsed⟩
        refine ⟨_, hashLevel_padded.mpr ⟨hashable (Nat.succ_pos fuel) several, rfl⟩, ?_⟩
        exact ih.mpr ⟨fun _ => hashable_pairUp level, collapsed⟩
    · rw [if_neg several, if_neg several]
      exact ⟨fun same => ⟨fun _ impossible => absurd impossible several, Except.ok.inj same⟩,
        fun same => congrArg Except.ok same.2⟩

theorem merkleRootLoop_eq_ok {leaves : List String} {top : String} :
    merkleRootLoop P leaves = .ok top ↔ Hashable leaves ∧ merkleRoot P leaves = top := by
  rw [merkleRootLoop]
  by_cases empty : leaves = []
  · subst empty
    rw [if_pos rfl]
    exact ⟨fun same => ⟨fun impossible => absurd impossible (by decide), Except.ok.inj same⟩,
      fun same => congrArg Except.ok same.2⟩
  · have positive : 0 < leaves.length := length_pos_iff.mpr empty
    have single := root_eq_merkleRoot P empty
    rw [if_neg empty, bind_eq_ok]
    constructor
    · rintro ⟨level, looped, same⟩
      obtain ⟨hashable, collapsed⟩ := rootLoop_eq_ok.mp looped
      rw [← MerkleTree.root, single] at collapsed
      rw [← collapsed] at same
      exact ⟨hashable positive, Except.ok.inj same⟩
    · rintro ⟨hashable, rfl⟩
      exact ⟨_, rootLoop_eq_ok.mpr ⟨fun _ => hashable, single⟩, rfl⟩

theorem proofLoop_eq_ok {fuel : Nat} {level top : List String} {index : Nat}
    {steps : List MerkleProofStep} (inside : index < level.length) :
    proofLoop P fuel level index = .ok (steps, top) ↔
      (0 < fuel -> Hashable level) ∧
        (MerkleTree.openPath (hashPair P) fuel level index).1.map MerkleProofStep.ofSide = steps ∧
        (MerkleTree.openPath (hashPair P) fuel level index).2 = top := by
  induction fuel generalizing level top index steps with
  | zero =>
    rw [proofLoop, MerkleTree.openPath, Except.ok.injEq, Prod.mk.injEq, map_nil]
    exact ⟨fun same => ⟨fun impossible => absurd impossible (by decide), same⟩, And.right⟩
  | succ fuel ih =>
    rw [proofLoop, MerkleTree.openPath]
    by_cases several : 1 < level.length
    · have above : index / 2 < (MerkleTree.pairUp (hashPair P) level).length := by
        rw [length_pairUp]
        omega
      rw [if_pos several, if_pos several, bind_eq_ok]
      simp only [map_cons, bind_eq_ok]
      constructor
      · rintro ⟨next, hashed, ⟨moreSteps, last⟩, looped, same⟩
        obtain ⟨ascii, rfl⟩ := hashLevel_padded.mp hashed
        obtain ⟨_, rfl, rfl⟩ := (ih above).mp looped
        rw [Except.ok.injEq, Prod.mk.injEq, siblingStep_padded inside] at same
        exact ⟨fun _ _ => ascii, same⟩
      · rintro ⟨hashable, rfl, rfl⟩
        refine ⟨_, hashLevel_padded.mpr ⟨hashable (Nat.succ_pos fuel) several, rfl⟩, _,
          (ih above).mpr ⟨fun _ => hashable_pairUp level, rfl, rfl⟩, ?_⟩
        rw [siblingStep_padded inside]
    · rw [if_neg several, if_neg several, Except.ok.injEq, Prod.mk.injEq, map_nil]
      exact ⟨fun same => ⟨fun _ impossible => absurd impossible several, same⟩, And.right⟩

theorem merkleProofLoop_eq_ok {leaves : List String} {index : Int} {proof : MerkleProof}
    (inside : 0 ≤ index ∧ index < leaves.length) :
    merkleProofLoop P leaves index = .ok proof ↔
      Hashable leaves ∧ merkleProof P leaves index = .ok proof := by
  have some_ : leaves ≠ [] := by
    rintro rfl
    simp only [length_nil] at inside
    omega
  have valid : ¬ (index < 0 ∨ (leaves.length : Int) ≤ index) := by omega
  have positive : 0 < leaves.length := length_pos_iff.mpr some_
  have within : index.toNat < leaves.length := by omega
  rw [merkleProofLoop, merkleProof, raiseIf_bind_eq_ok, raiseIf_bind_eq_ok, raiseIf_bind_eq_ok,
    raiseIf_bind_eq_ok, bind_eq_ok]
  constructor
  · rintro ⟨_, _, ⟨steps, top⟩, looped, same⟩
    obtain ⟨hashable, rfl, rfl⟩ := (proofLoop_eq_ok within).mp looped
    exact ⟨hashable positive, some_, valid, same⟩
  · rintro ⟨hashable, _, _, same⟩
    exact ⟨some_, valid, _, (proofLoop_eq_ok within).mpr ⟨fun _ => hashable, rfl, rfl⟩, same⟩

/-! ## Completeness -/

theorem openPath_ascii {fuel : Nat} {level : List String} {index : Nat}
    (hashable : Hashable level) (inside : index < level.length) :
    ∀ step, step ∈ (MerkleTree.openPath (hashPair P) fuel level index).1 ->
      isAscii step.2 = true := by
  induction fuel generalizing level index with
  | zero =>
    intro step impossible
    exact absurd impossible not_mem_nil
  | succ fuel ih =>
    intro step member
    rw [MerkleTree.openPath] at member
    by_cases several : 1 < level.length
    · have above : index / 2 < (MerkleTree.pairUp (hashPair P) level).length := by
        rw [length_pairUp]
        omega
      have ascii : ∀ place : Nat, isAscii ((level[place]?).getD level[index]) = true := by
        intro place
        cases found : level[place]? with
        | none => exact hashable several _ (getElem_mem inside)
        | some node => exact hashable several node (mem_of_getElem? found)
      rw [if_pos several] at member
      rcases mem_cons.mp member with rfl | later
      · rw [MerkleTree.siblingOf]
        by_cases even : index % 2 = 0
        · rw [if_pos even, getElem?_eq_getElem inside, Option.getD_some]
          exact ascii (index + 1)
        · rw [if_neg even, getElem?_eq_getElem (by omega : index - 1 < level.length)]
          exact hashable several _ (getElem_mem _)
      · exact ih (hashable_pairUp level) above step later
    · rw [if_neg several] at member
      exact absurd member not_mem_nil

theorem verify_merkleProof {leaves : List String} {index : Int} {proof : MerkleProof}
    (hashable : Hashable leaves) (built : merkleProof P leaves index = .ok proof) :
    merkleRoot P leaves = proof.root ∧ leaves[index.toNat]? = some proof.leaf ∧
      proof.index = index ∧ verifyMerkleProof P proof = .ok true := by
  rw [merkleProof, raiseIf_bind_eq_ok, raiseIf_bind_eq_ok] at built
  obtain ⟨some_, valid, built⟩ := built
  obtain rfl := Except.ok.inj built
  have within : index.toNat < leaves.length := by omega
  have leafAt : leaves[index.toNat]? = some leaves[index.toNat] := getElem?_eq_getElem within
  have leafIs : leaves.getD index.toNat "" = leaves[index.toNat] := by
    rw [getD_eq_getElem?_getD, leafAt, Option.getD_some]
  have single := root_eq_merkleRoot P some_
  have top : (MerkleTree.openPath (hashPair P) leaves.length leaves index.toNat).2 =
      [merkleRoot P leaves] := by
    rw [openPath_top, ← MerkleTree.root, single]
  have climbed := climb_openPath (hashPair P) leaves.length leaves index.toNat _
    (Nat.le_refl _) leafAt
  rw [single, singleton_inj] at climbed
  refine ⟨?_, ?_, rfl, ?_⟩
  · dsimp only
    rw [top]
    rfl
  · rw [leafIs, leafAt]
  · rw [verifyMerkleProof]
    dsimp only
    rw [leafIs, top]
    by_cases several : 1 < leaves.length
    · rw [runSteps_ofSide P _ _ (hashable several _ (getElem_mem within))
        (openPath_ascii hashable within) isAscii_sha256Hex, ← climbed]
      simp [Except.map]
    · -- a single leaf is its own root, and its proof has no steps
      have steps := length_openPath (hashPair P) leaves.length leaves index.toNat
        (Nat.le_refl _)
      rw [Nat.clog_of_right_le_one (by omega), length_eq_zero_iff] at steps
      rw [steps] at climbed ⊢
      rw [climbed]
      simp [runSteps, Except.map, MerkleTree.climb]

/-- For any leaves and any valid index: a proof that is returned has the root
of the leaves and the leaf at the index, and is accepted; and a proof is
returned whenever the leaves are ASCII texts, as digests are. -/
theorem merkleProof_complete (P : Platform F) (leaves : List String) (index : Int)
    (inside : 0 ≤ index ∧ index < leaves.length) :
    (∀ proof, merkleProofLoop P leaves index = .ok proof ->
      merkleRootLoop P leaves = .ok proof.root ∧ leaves[index.toNat]? = some proof.leaf ∧
        proof.index = index ∧ verifyMerkleProof P proof = .ok true) ∧
    ((∀ leaf, leaf ∈ leaves -> isAscii leaf = true) ->
      ∃ proof, merkleProofLoop P leaves index = .ok proof) := by
  constructor
  · intro proof built
    obtain ⟨hashable, isProof⟩ := (merkleProofLoop_eq_ok inside).mp built
    obtain ⟨root, leaf, atIndex, accepted⟩ := verify_merkleProof hashable isProof
    exact ⟨merkleRootLoop_eq_ok.mpr ⟨hashable, root⟩, leaf, atIndex, accepted⟩
  · intro ascii
    have some_ : leaves ≠ [] := by
      rintro rfl
      simp only [length_nil] at inside
      omega
    have valid : ¬ (index < 0 ∨ (leaves.length : Int) ≤ index) := by omega
    have built : ∃ proof, merkleProof P leaves index = .ok proof := by
      simp only [merkleProof, raiseIf_bind_eq_ok]
      exact ⟨_, some_, valid, rfl⟩
    obtain ⟨proof, isProof⟩ := built
    exact ⟨proof, (merkleProofLoop_eq_ok inside).mpr ⟨fun _ => ascii, isProof⟩⟩

/-- The last of three leaves, which is its own sibling. -/
theorem merkleProof_of_odd_last :
    ∃ proof, merkleProofLoop platform ["0a", "1b", "2c"] 2 = .ok proof ∧
      merkleRootLoop platform ["0a", "1b", "2c"] = .ok proof.root ∧ proof.leaf = "2c" ∧
      verifyMerkleProof platform proof = .ok true := by
  obtain ⟨sound, total⟩ :=
    merkleProof_complete platform ["0a", "1b", "2c"] 2 (by decide)
  obtain ⟨proof, built⟩ := total (by decide)
  obtain ⟨root, leaf, _, accepted⟩ := sound proof built
  exact ⟨proof, built, root, (Option.some.inj leaf).symm, accepted⟩

end Loops

end Ledger
end ZepGpu
