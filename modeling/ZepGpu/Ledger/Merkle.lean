import ZepGpu.Foundation.MerkleTree
import ZepGpu.Ledger.Platform

namespace ZepGpu
namespace Ledger

open Foundation List

/-!
# Merkle trees over transaction digests

The tree of the ledger is the repeating binary tree of `MerkleTree`, with the
digest of the concatenated texts of two nodes as their parent.  Leaves are
digests of transactions; the leaf, the siblings and the root of a received
proof are arbitrary texts.
-/

variable {F : Type} [Arithmetic F]

/-- The root of an empty block, and the link of the genesis block. -/
def zeroHash : String :=
  "0000000000000000000000000000000000000000000000000000000000000000"

theorem zeroHash_isHex : IsHexDigest zeroHash := by
  have digits : zeroHash.toList = List.replicate 64 '0' := by decide
  refine ⟨by rw [← String.length_toList, digits, length_replicate], fun c member => ?_⟩
  rw [digits] at member
  rw [eq_of_mem_replicate member]
  decide

section Merkle

variable (P : Platform F)

def hashPair (left right : String) : String :=
  P.sha256Hex (left ++ right)

/-- Merkle root over ordered leaf hashes; the empty tree has the zero hash. -/
def merkleRoot (leaves : List String) : String :=
  (MerkleTree.root (hashPair P) leaves).headD zeroHash

/-- One sibling hash of a proof, with its side relative to the running hash. -/
structure MerkleProofStep where
  hash : String
  position : String
  deriving DecidableEq

/-- The path from a leaf to the root that it should lead to. -/
structure MerkleProof where
  leaf : String
  index : Int
  root : String
  steps : List MerkleProofStep
  deriving DecidableEq

def MerkleProofStep.ofSide (step : MerkleTree.Side × String) : MerkleProofStep :=
  match step.1 with
  | .left => ⟨step.2, "left"⟩
  | .right => ⟨step.2, "right"⟩

def merkleProof (leaves : List String) (index : Int) : Except PyError MerkleProof := do
  raiseIf (leaves = []) (.valueError "Cannot build proof for empty leaf set")
  raiseIf (index < 0 ∨ (leaves.length : Int) ≤ index) (.indexError "Leaf index out of range")
  let opened := MerkleTree.openPath (hashPair P) leaves.length leaves index.toNat
  .ok {
    leaf := leaves.getD index.toNat ""
    index := index
    root := opened.2.headD ""
    steps := opened.1.map MerkleProofStep.ofSide }

/-- `text.encode("ascii")` succeeds. -/
def isAscii (text : String) : Bool :=
  text.toList.all (fun c => c.toNat < 128)

/-- The running hash after the steps of a proof: `none` when a step has an
unknown side, and an exception when a text is not ASCII. -/
def runSteps : String -> List MerkleProofStep -> Except PyError (Option String)
  | running, [] => .ok (some running)
  | running, step :: steps =>
    if step.position = "right" then
      raiseIf (isAscii (running ++ step.hash) = false) (.valueError "ordinal not in range(128)") >>=
        fun _ => runSteps (hashPair P running step.hash) steps
    else if step.position = "left" then
      raiseIf (isAscii (step.hash ++ running) = false) (.valueError "ordinal not in range(128)") >>=
        fun _ => runSteps (hashPair P step.hash running) steps
    else .ok none

/-- Recompute the root from the leaf and the steps and compare it to the
claimed root.  The index of the proof is not looked at. -/
def verifyMerkleProof (proof : MerkleProof) : Except PyError Bool :=
  (runSteps P proof.leaf proof.steps).map (fun running => decide (running = some proof.root))

theorem merkleRoot_eq_of_root {leaves : List String} {top : String}
    (reaches : MerkleTree.root (hashPair P) leaves = [top]) : merkleRoot P leaves = top := by
  rw [merkleRoot, reaches]
  rfl

theorem root_eq_merkleRoot {leaves : List String} (nonempty : leaves ≠ []) :
    MerkleTree.root (hashPair P) leaves = [merkleRoot P leaves] := by
  obtain ⟨top, single⟩ := length_eq_one_iff.mp (MerkleTree.length_root (hashPair P) leaves nonempty)
  rw [single, merkleRoot_eq_of_root P single]

/-- An odd tree with several leaves has the root of the tree that repeats its
last leaf. -/
theorem merkleRoot_repeat_last (front : List String) (last : String) (odd : front.length % 2 = 0)
    (several : front ≠ []) :
    merkleRoot P (front ++ [last]) = merkleRoot P (front ++ [last, last]) := by
  rw [merkleRoot, merkleRoot, MerkleTree.root_repeat_last (hashPair P) front last odd several]

theorem hashPair_isHex (left right : String) : IsHexDigest (hashPair P left right) :=
  P.sha256Hex_isHex _

/-- The side of a step, when it has one. -/
def MerkleProofStep.side? (step : MerkleProofStep) : Option MerkleTree.Side :=
  if step.position = "right" then some .right
  else if step.position = "left" then some .left
  else none

def pathOf : List MerkleProofStep -> Option (List (MerkleTree.Side × String))
  | [] => some []
  | step :: steps =>
    match step.side?, pathOf steps with
    | some side, some path => some ((side, step.hash) :: path)
    | _, _ => none

theorem runSteps_eq_some {running final : String} {steps : List MerkleProofStep}
    (ended : runSteps P running steps = .ok (some final)) :
    ∃ path, pathOf steps = some path ∧ final = MerkleTree.climb (hashPair P) running path := by
  induction steps generalizing running with
  | nil =>
    simp only [runSteps, Except.ok.injEq, Option.some.injEq] at ended
    exact ⟨[], rfl, ended.symm⟩
  | cons step steps ih =>
    rw [runSteps] at ended
    by_cases onRight : step.position = "right"
    · rw [if_pos onRight, raiseIf_bind_eq_ok] at ended
      obtain ⟨path, pathEq, finalEq⟩ := ih ended.2
      refine ⟨(.right, step.hash) :: path, ?_, finalEq⟩
      rw [pathOf, MerkleProofStep.side?, if_pos onRight, pathEq]
    · rw [if_neg onRight] at ended
      by_cases onLeft : step.position = "left"
      · rw [if_pos onLeft, raiseIf_bind_eq_ok] at ended
        obtain ⟨path, pathEq, finalEq⟩ := ih ended.2
        refine ⟨(.left, step.hash) :: path, ?_, finalEq⟩
        rw [pathOf, MerkleProofStep.side?, if_neg onRight, if_pos onLeft, pathEq]
      · rw [if_neg onLeft] at ended
        simp at ended

theorem runSteps_ofSide (running : String) (path : List (MerkleTree.Side × String))
    (runningAscii : isAscii running = true)
    (siblingsAscii : ∀ step, step ∈ path -> isAscii step.2 = true)
    (digestAscii : ∀ data, isAscii (P.sha256Hex data) = true) :
    runSteps P running (path.map MerkleProofStep.ofSide) =
      .ok (some (MerkleTree.climb (hashPair P) running path)) := by
  have appended : ∀ left right : String, isAscii left = true -> isAscii right = true ->
      isAscii (left ++ right) = true := by
    intro left right leftAscii rightAscii
    simp only [isAscii, String.toList_append, all_append, Bool.and_eq_true] at *
    exact ⟨leftAscii, rightAscii⟩
  induction path generalizing running with
  | nil => rfl
  | cons step path ih =>
    obtain ⟨side, sibling⟩ := step
    have here : isAscii sibling = true := siblingsAscii (side, sibling) (by simp)
    have later := ih (MerkleTree.join (hashPair P) running (side, sibling))
      (by cases side <;> exact digestAscii _)
      (fun step member => siblingsAscii step (mem_cons_of_mem _ member))
    cases side with
    | right =>
      simp only [map_cons, MerkleProofStep.ofSide, runSteps, if_true]
      rw [raiseIf_bind_eq_ok]
      exact ⟨by rw [appended _ _ runningAscii here]; decide, later⟩
    | left =>
      simp only [map_cons, MerkleProofStep.ofSide, runSteps, if_true]
      rw [if_neg (by decide), raiseIf_bind_eq_ok]
      exact ⟨by rw [appended _ _ here runningAscii]; decide, later⟩

theorem append_inj_of_length {left right left' right' : String}
    (sizes : left.length = left'.length ∨ right.length = right'.length)
    (same : left ++ right = left' ++ right') : left = left' ∧ right = right' := by
  have lists := congrArg String.toList same
  rw [String.toList_append, String.toList_append] at lists
  have parts : left.toList = left'.toList ∧ right.toList = right'.toList := by
    rcases sizes with front | back
    · exact append_inj lists (by rw [String.length_toList, String.length_toList, front])
    · exact append_inj' lists (by rw [String.length_toList, String.length_toList, back])
  exact ⟨String.toList_injective parts.1, String.toList_injective parts.2⟩

theorem brace_ne_digest_append {text digest rest : String} {body : List Char}
    (braces : text.toList = '{' :: (body ++ ['}'])) (hex : IsHexDigest digest) :
    text ≠ digest ++ rest := by
  intro same
  have lists := congrArg String.toList same
  rw [braces, String.toList_append] at lists
  cases digits : digest.toList with
  | nil =>
    have size := hex.1
    rw [← String.length_toList, digits] at size
    simp at size
  | cons first others =>
    rw [digits, cons_append, List.cons.injEq] at lists
    have digit := hex.2 first (by rw [digits]; exact mem_cons_self)
    rw [← lists.1] at digit
    exact absurd digit (by decide)

theorem brace_ne_append_digest {text digest rest : String} {body : List Char}
    (braces : text.toList = '{' :: (body ++ ['}'])) (hex : IsHexDigest digest) :
    text ≠ rest ++ digest := by
  intro same
  have lists := congrArg (fun value : String => value.toList.getLast?) same
  simp only [braces, String.toList_append] at lists
  rcases eq_nil_or_concat digest.toList with empty | ⟨front, last, shape⟩
  · have size := hex.1
    rw [← String.length_toList, empty] at size
    simp at size
  · have digit := hex.2 last (by rw [shape]; simp)
    rw [shape, concat_eq_append, ← append_assoc, ← cons_append,
      getLast?_concat, getLast?_concat] at lists
    rw [← Option.some.inj lists] at digit
    exact absurd digit (by decide)

end Merkle

end Ledger
end ZepGpu
