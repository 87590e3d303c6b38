import ZepGpu.Foundation.JsonDescent
import ZepGpu.Queue.SafeTask
import ZepGpu.Vpn.MessageRoundTrip

namespace ZepGpu
namespace Vpn
namespace NestingGuard

open Foundation PeerMessages
open Foundation.Json

/-!
# The scan in front of the decoders

The codec of the tasks and that of the peer messages look at the brackets of a text
before they decode it.  Each has the loop below, with its own error.  The loop is
exact on every document of the grammar, and on any text at all it keeps a descending
reader from opening more containers than the limit.
-/

variable {ε : Type}

def advanceJsonDepth (maximumDepth : Int) (tooDeep : ε) (character : Char) (depth : Int) : Except ε Int :=
  if character = '[' ∨ character = '{' then
    if maximumDepth < depth + 1 then .error tooDeep else .ok (depth + 1)
  else if character = ']' ∨ character = '}' then .ok (depth - 1)
  else .ok depth

/-- The loop of `_validate_json_nesting`. -/
def scanJsonNesting (maximumDepth : Int) (tooDeep : ε) : Int -> Bool -> Bool -> List Char -> Except ε Unit
  | _, _, _, [] => .ok ()
  | depth, inString, escaped, character :: rest =>
    if inString then
      if escaped then scanJsonNesting maximumDepth tooDeep depth true false rest
      else if character = '\\' then scanJsonNesting maximumDepth tooDeep depth true true rest
      else if character = '"' then scanJsonNesting maximumDepth tooDeep depth false false rest
      else scanJsonNesting maximumDepth tooDeep depth true false rest
    else if character = '"' then scanJsonNesting maximumDepth tooDeep depth true escaped rest
    else
      match advanceJsonDepth maximumDepth tooDeep character depth with
      | .error error => .error error
      | .ok depth =>
        if depth < 0 then .ok ()
        else scanJsonNesting maximumDepth tooDeep depth false escaped rest

/-- `_validate_json_nesting` of the task codec -/
def validateTaskNesting (text : List Char) (maximumDepth : Int) (label : String) :
    Except Queue.SafeTask.PayloadError Unit :=
  scanJsonNesting maximumDepth (.unsafePayload (label ++ " exceeds the maximum JSON nesting depth"))
    0 false false text

/-- `_validate_json_nesting` of the peer protocol -/
def validatePeerNesting (text : List Char) : Except PeerError Unit :=
  scanJsonNesting maxJsonNestingDepth
    (refused "Peer message exceeds the maximum JSON nesting depth") 0 false false text

theorem scanJsonNesting_eq (limit : Nat) (tooDeep : ε) (depth : Nat) (inString escaped : Bool)
    (outside : inString = false -> escaped = false) (text : List Char) :
    scanJsonNesting limit tooDeep depth inString escaped text =
      raiseIf (nestsBeyond limit depth inString escaped text = true) tooDeep := by
  induction text generalizing depth inString escaped with
  | nil => rfl
  | cons character rest ih =>
    rw [scanJsonNesting, nestsBeyond]
    cases inString with
    | true =>
      simp only [if_true]
      split_ifs
      · exact ih depth true false (by rintro ⟨⟩)
      · exact ih depth true true (by rintro ⟨⟩)
      · exact ih depth false false (fun _ => rfl)
      · exact ih depth true false (by rintro ⟨⟩)
    | false =>
      rw [outside rfl]
      simp only [Bool.false_eq_true, if_false]
      by_cases quote : character = '"'
      · rw [if_pos quote, if_pos quote]
        exact ih depth true false (by rintro ⟨⟩)
      · rw [if_neg quote, if_neg quote, advanceJsonDepth]
        by_cases isOpen : character = '[' ∨ character = '{'
        · rw [if_pos isOpen, if_pos isOpen]
          by_cases deep : limit < depth + 1
          · have deepInt : (limit : Int) < depth + 1 := by omega
            rw [if_pos deep, if_pos deepInt]
            rfl
          · have shallowInt : ¬ (limit : Int) < depth + 1 := by omega
            rw [if_neg deep, if_neg shallowInt]
            exact ih (depth + 1) false false (fun _ => rfl)
        · rw [if_neg isOpen, if_neg isOpen]
          by_cases isClose : character = ']' ∨ character = '}'
          · rw [if_pos isClose, if_pos isClose]
            cases depth with
            | zero => rfl
            | succ depth =>
              have below : ((depth + 1 : Nat) : Int) - 1 = depth := by omega
              dsimp only
              rw [below, if_neg (not_lt.mpr (Int.natCast_nonneg depth)), if_neg (Nat.succ_ne_zero depth)]
              exact ih depth false false (fun _ => rfl)
          · rw [if_neg isClose, if_neg isClose]
            dsimp only
            rw [if_neg (not_lt.mpr (Int.natCast_nonneg depth))]
            exact ih depth false false (fun _ => rfl)

theorem raiseIf_eq_error {condition : Prop} [Decidable condition] {error : ε} :
    (raiseIf condition error : Except ε Unit) = .error error ↔ condition := by
  unfold raiseIf
  split_ifs with holds
  · exact iff_of_true rfl holds
  · exact iff_of_false (by rintro ⟨⟩) holds

theorem validateTaskNesting_eq (text : List Char) (maximumDepth : Nat) (label : String) :
    validateTaskNesting text maximumDepth label =
      Queue.SafeTask.validateJsonNesting text maximumDepth label :=
  scanJsonNesting_eq maximumDepth _ 0 false false (fun _ => rfl) text

theorem validatePeerNesting_eq (text : List Char) :
    validatePeerNesting text = raiseIf (nestsTooDeep 0 false false text = true)
      (refused "Peer message exceeds the maximum JSON nesting depth") := by
  rw [nestsTooDeep_eq]
  exact scanJsonNesting_eq maxJsonNestingDepth _ 0 false false (fun _ => rfl) text

section Decoders

variable {F : Type} (floats : Floats F)

/-- The decoder as a descending reader, with as many steps as any text needs. -/
def decodeByDescent (text : List Char) : Except ReadError (Value F × List Char) :=
  (descend (valueScalars floats) (2 * text.length + 2) 0 .value text).orMalformed

/-- Behind the scan each codec goes on with what the descending reader makes of the
text. -/
structure DecodesByDescent : Prop where
  peer : ∀ text, parseJsonObject floats text = (do
    validatePeerNesting text
    match decodeByDescent floats text with
    | .error error => .error (refused (readErrorDetail error))
    | .ok (value, rest) => do
        raiseIf (rest ≠ []) (refused "Trailing bytes are not permitted")
        match value with
        | .obj fields => .ok fields
        | _ => .error (refused "Peer message must be a JSON object"))
  task : ∀ data maximum label text, data.length ≤ maximum -> ofUtf8? data = some text ->
    Queue.SafeTask.decodeJson floats data maximum label = (do
      validateTaskNesting text.toList Queue.SafeTask.maxJsonNestingDepth label
      match Queue.SafeTask.loads floats text.toList with
      | .error error => .error (Queue.SafeTask.readFailure label error)
      | .ok value => .ok value)
  loads : ∀ text, Queue.SafeTask.loads floats text =
    if text.head? = some '\uFEFF' then .error .malformed
    else
      match decodeByDescent floats (skipBlanks text) with
      | .error error => .error error
      | .ok (value, rest) => if skipBlanks rest = [] then .ok value else .error .malformed

theorem decodesByDescent : DecodesByDescent floats where
  peer := by
    intro text
    rw [validatePeerNesting_eq, decodeByDescent, ← rawDecodeValue_eq]
    rfl
  task := by
    intro data maximum label text short decoded
    rw [Queue.SafeTask.decodeJson, raiseIf, if_neg (not_lt.mpr short), decoded,
      validateTaskNesting_eq]
    rfl
  loads := by
    intro text
    rw [decodeByDescent, ← rawDecodeValue_eq]
    rfl

end Decoders

theorem validateTaskNesting_ok_iff (text : List Char) (label : String) :
    validateTaskNesting text Queue.SafeTask.maxJsonNestingDepth label = .ok () ↔
      nestsBeyond 100 0 false false text = false := by
  rw [validateTaskNesting_eq, Queue.SafeTask.validateJsonNesting, raiseIf_eq_ok, Bool.not_eq_true]
  rfl

theorem validatePeerNesting_ok_iff (text : List Char) :
    validatePeerNesting text = .ok () ↔ nestsBeyond 100 0 false false text = false := by
  rw [validatePeerNesting_eq, raiseIf_eq_ok, nestsTooDeep_eq, Bool.not_eq_true]
  rfl

theorem guarded_of_accepted {κ α : Type} {text : List Char}
    (accepted : nestsBeyond 100 0 false false text = false) (scalars : Scalars ε κ α) (fuel : Nat) :
    Guarded 100 0 text (2 * text.length + 1 ≤ fuel) (descend scalars fuel 0 .value text) :=
  descend_guarded scalars 100 fuel 0 .value text (Nat.zero_le _) (fun other => absurd rfl other) accepted

/-- Both codecs refuse a document exactly when it is nested more than a hundred deep,
they agree on every text, and behind either of them a descending reader, as the decoder
is one, finishes or fails without ever having more than a hundred containers open. -/
theorem nesting_guard_exact (label : String) :
    (∀ text depth, IsDocument text depth ->
      (validateTaskNesting text Queue.SafeTask.maxJsonNestingDepth label =
          .error (.unsafePayload (label ++ " exceeds the maximum JSON nesting depth")) ↔ 100 < depth) ∧
      (validatePeerNesting text = .error
          (refused "Peer message exceeds the maximum JSON nesting depth") ↔ 100 < depth)) ∧
    (∀ text, validateTaskNesting text Queue.SafeTask.maxJsonNestingDepth label = .ok () ↔
      validatePeerNesting text = .ok ()) ∧
    (∀ text, validatePeerNesting text = .ok () ->
      ∀ {ε κ α : Type} (scalars : Scalars ε κ α) (fuel : Nat),
        ((descend scalars fuel 0 .value text).peak ≤ 100 ∧
          (descend scalars fuel 0 .value (skipBlanks text)).peak ≤ 100) ∧
        (2 * text.length + 1 ≤ fuel -> (descend scalars fuel 0 .value text).result.isSome = true ∧
          (descend scalars fuel 0 .value (skipBlanks text)).result.isSome = true)) ∧
    ∀ {F : Type} (floats : Floats F), DecodesByDescent floats := by
  refine ⟨?_, ?_, ?_, fun floats => decodesByDescent floats⟩
  · intro text depth document
    rw [validateTaskNesting_eq, Queue.SafeTask.validateJsonNesting, validatePeerNesting_eq,
      nestsTooDeep_eq, raiseIf_eq_error, raiseIf_eq_error]
    exact ⟨nestsBeyond_document document, nestsBeyond_document document⟩
  · intro text
    rw [validateTaskNesting_ok_iff, validatePeerNesting_ok_iff]
  · intro text accepted _ _ _ scalars fuel
    have passed := (validatePeerNesting_ok_iff text).mp accepted
    have whole := guarded_of_accepted passed scalars fuel
    have stripped := guarded_of_accepted (accepted_blanks passed) scalars fuel
    refine ⟨⟨whole.peak_le, stripped.peak_le⟩, ?_⟩
    intro enough
    have less := length_skipBlanks_le text
    exact ⟨whole.isSome enough, stripped.isSome (by omega)⟩

/-- A document of depth two whose only name is made of brackets and a quotation mark. -/
def bracketsInName : List Char :=
  ['{', '"', ']', '\\', '"', '[', '"', ':', '[', '1', ']', '}']

theorem isDocument_bracketsInName : IsDocument bracketsInName 2 := by
  have blanks : Blanks [] := by
    intro c impossible
    cases impossible
  have name := IsString.quoted (.cons (.unescaped ']' (by decide) (by decide) (by decide))
    (.cons (.escape '"' (by decide)) (.cons (.unescaped '[' (by decide) (by decide) (by decide)) .nil)))
  have digits : IsDigits ['1'] := by
    refine ⟨List.cons_ne_nil _ _, ?_⟩
    intro c member
    rw [List.mem_singleton.mp member]
    rfl
  have number := IsValue.number
    (.parts (Or.inl rfl) ⟨digits, fun zero => absurd zero (by decide)⟩ (Or.inl rfl) (Or.inl rfl))
  have array := IsValue.array (.one (.padded blanks number blanks))
  have object := IsValue.object (.one (.named blanks name blanks (.padded blanks array blanks)))
  exact .padded blanks object blanks

/-- It passes both codecs, and is read within the limit. -/
theorem bracketsInName_accepted :
    (¬ validatePeerNesting bracketsInName = .error
      (refused "Peer message exceeds the maximum JSON nesting depth") ∧
      validatePeerNesting bracketsInName = .ok ()) ∧
    ∀ {ε κ α : Type} (scalars : Scalars ε κ α),
      (descend scalars 25 0 .value bracketsInName).peak ≤ 100 := by
  have guard := nesting_guard_exact "Task result"
  have accepted : validatePeerNesting bracketsInName = .ok () := rfl
  refine ⟨⟨fun refused => ?_, accepted⟩, ?_⟩
  · have deep := (guard.1 bracketsInName 2 isDocument_bracketsInName).2.mp refused
    exact absurd deep (by decide)
  · intro _ _ _ scalars
    exact (guard.2.2.1 bracketsInName accepted scalars 25).1.1

end NestingGuard
end Vpn
end ZepGpu
