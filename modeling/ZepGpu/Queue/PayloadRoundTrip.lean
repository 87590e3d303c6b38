import ZepGpu.Queue.SafeTask
import ZepGpu.Vpn.MessageRoundTrip

namespace ZepGpu
namespace Queue
namespace SafeTask

open Foundation
open Foundation.Json

/-!
# When a written payload is read again

The text that the writer has made is valid and short enough for the reader, and
holds the sorted value.  What the reader can still refuse is its depth: the scan of
the brackets finds the depth of the value itself, because brackets inside of texts
are not counted.
-/

section Payloads

variable {F : Type} (floats : Floats F) {stack maximum : Nat} {label : String} {value : Value F}
  {data : Bytes}

theorem head?_ne {text : List Char} {c mark : Char} (different : c ≠ mark) :
    (c :: text).head? ≠ some mark :=
  fun same => different (Option.some.inj same)

theorem startsNumber_ne_mark {text : List Char} (starts : StartsNumber text) :
    text.head? ≠ some '\uFEFF' := by
  rcases starts with ⟨negative, digit, rest, isDigit, rfl⟩
  cases negative with
  | true => exact head?_ne (by decide)
  | false => exact head?_ne (ne_of_isAsciiDigit isDigit (by decide))

theorem text_ne_mark (ok : writable floats value = true) :
    (text floats value).head? ≠ some '\uFEFF' := by
  cases value with
  | null => exact head?_ne (by decide)
  | bool value =>
    cases value with
    | true => exact head?_ne (by decide)
    | false => exact head?_ne (by decide)
  | int value =>
    have starts := startsNumber_int value []
    rw [List.append_nil] at starts
    exact startsNumber_ne_mark starts
  | float value =>
    have starts := startsNumber_float floats ok []
    rw [List.append_nil] at starts
    exact startsNumber_ne_mark starts
  | str value => exact head?_ne (by decide)
  | arr items =>
    cases items with
    | nil => exact head?_ne (by decide)
    | cons item rest => exact head?_ne (by decide)
  | obj fields =>
    cases fields with
    | nil => exact head?_ne (by decide)
    | cons field rest => exact head?_ne (by decide)

theorem loads_text (ok : writable floats value = true) (distinct : distinctKeys value) :
    loads floats (text floats value) = .ok value := by
  have starts := startsValue_text floats ok []
  rw [List.append_nil] at starts
  unfold loads
  rw [if_neg (text_ne_mark floats ok), starts.skipBlanks_eq, rawDecodeValue_text floats ok distinct]
  rfl

/-- What the writer has made, and what it took for it. -/
structure Encoded (value : Value F) (maximum : Nat) (data : Bytes) : Prop where
  primitive : writable floats value = true
  written : data = utf8Chars (text floats (sorted value))
  short : data.length ≤ maximum

theorem encoded_of_encodeJson (made : encodeJson floats stack value maximum label = .ok data) :
    Encoded floats value maximum data := by
  unfold encodeJson at made
  rcases raiseIf_bind_eq_ok.mp made with ⟨-, made⟩
  rcases raiseIf_bind_eq_ok.mp made with ⟨primitive, made⟩
  rcases raiseIf_bind_eq_ok.mp made with ⟨short, made⟩
  cases made
  exact ⟨by simpa using primitive, rfl, not_lt.mp short⟩

variable {floats}

theorem Encoded.ne_nil (encoded : Encoded floats value maximum data) : data ≠ [] := by
  rcases startsValue_text floats (writable_sorted floats value encoded.primitive) [] with
    ⟨c, rest, starts, -⟩
  rw [List.append_nil] at starts
  intro empty
  have none : utf8Chars [] = data := empty.symm
  rw [encoded.written] at none
  rw [← utf8Chars_injective none] at starts
  cases starts

theorem Encoded.decodeJson_eq (encoded : Encoded floats value maximum data)
    (distinct : distinctKeys value) :
    decodeJson floats data maximum label =
      if maxJsonNestingDepth < depth value then
        .error (.unsafePayload (label ++ " exceeds the maximum JSON nesting depth"))
      else .ok (sorted value) := by
  have okSorted := writable_sorted floats value encoded.primitive
  have isText : data = utf8 (String.ofList (text floats (sorted value))) := by
    rw [encoded.written, utf8_eq_flatMap, String.toList_ofList, utf8Chars]
  have scanned : nestsBeyond maxJsonNestingDepth 0 false false (text floats (sorted value)) = true ↔
      maxJsonNestingDepth < depth value := by
    rw [nestsBeyond_iff floats okSorted, depth_sorted]
  unfold decodeJson validateJsonNesting
  rw [raiseIf, if_neg (not_lt.mpr encoded.short), isText, ofUtf8?_utf8]
  dsimp only [bind, Except.bind]
  rw [String.toList_ofList, raiseIf]
  by_cases deep : maxJsonNestingDepth < depth value
  · rw [if_pos (scanned.mpr deep), if_pos deep]
  · rw [if_neg (fun beyond => deep (scanned.mp beyond)), if_neg deep,
      loads_text floats okSorted (distinctKeys_sorted value distinct)]

theorem Encoded.orBytes_eq {fallback : String} (encoded : Encoded floats value maximum data) :
    orBytes (some data) fallback = data := by
  unfold orBytes
  split
  · next none => cases none
  · next empty => exact absurd (Option.some.inj empty) encoded.ne_nil
  · next same => exact (Option.some.inj same).symm

variable (floats)

def ArgumentsReturn (args : Option (List (Value F))) (kwargs : Option (Fields F))
    (answer : Except PayloadError (List (Value F) × Fields F)) : Prop :=
  ∃ decodedArgs decodedKwargs, answer = .ok (decodedArgs, decodedKwargs) ∧
    EqualItems (args.getD []) decodedArgs ∧ Equal (.obj (kwargs.getD [])) (.obj decodedKwargs)

def ShallowArguments (args : Option (List (Value F))) (kwargs : Option (Fields F)) : Prop :=
  depth (.arr (args.getD [])) ≤ maxJsonNestingDepth ∧
    depth (.obj (kwargs.getD [])) ≤ maxJsonNestingDepth

theorem argumentsReturn_iff {args : Option (List (Value F))} {kwargs : Option (Fields F)}
    {encodedArgs encodedKwargs : Bytes} (distinctArgs : distinctItems (args.getD []))
    (distinctKwargs : distinctKeys (.obj (kwargs.getD [])))
    (made : encodeTaskArguments floats stack args kwargs = .ok (encodedArgs, encodedKwargs)) :
    ArgumentsReturn args kwargs (decodeTaskArguments floats (some encodedArgs) (some encodedKwargs)) ↔
      ShallowArguments args kwargs := by
  unfold encodeTaskArguments at made
  rcases bind_eq_ok.mp made with ⟨first, madeArgs, made⟩
  rcases bind_eq_ok.mp made with ⟨second, madeKwargs, made⟩
  cases made
  have isArgs := encoded_of_encodeJson floats madeArgs
  have isKwargs := encoded_of_encodeJson floats madeKwargs
  unfold decodeTaskArguments
  rw [isArgs.orBytes_eq, isKwargs.orBytes_eq, isArgs.decodeJson_eq (by exact distinctArgs),
    isKwargs.decodeJson_eq distinctKwargs]
  unfold ShallowArguments ArgumentsReturn
  by_cases deepArgs : maxJsonNestingDepth < depth (.arr (args.getD []))
  · rw [if_pos deepArgs]
    apply iff_of_false
    · rintro ⟨_, _, impossible, _⟩
      cases impossible
    · exact fun shallow => absurd shallow.1 (not_le.mpr deepArgs)
  · rw [if_neg deepArgs]
    by_cases deepKwargs : maxJsonNestingDepth < depth (.obj (kwargs.getD []))
    · rw [if_pos deepKwargs]
      apply iff_of_false
      · rintro ⟨_, _, impossible, _⟩
        cases impossible
      · exact fun shallow => absurd shallow.2 (not_le.mpr deepKwargs)
    · rw [if_neg deepKwargs]
      apply iff_of_true
      · refine ⟨_, _, rfl, equal_sortedItems _ distinctArgs, ?_⟩
        have equal := equal_sorted _ distinctKwargs
        rw [sorted_obj] at equal
        exact equal
      · exact ⟨not_lt.mp deepArgs, not_lt.mp deepKwargs⟩

theorem resultReturns_iff {result : Value F} {encoded : Bytes} (distinct : distinctKeys result)
    (made : encodeTaskResult floats stack result = .ok encoded) :
    (∃ decoded, decodeTaskResult floats encoded = .ok decoded ∧ Equal result decoded) ↔
      depth result ≤ maxJsonNestingDepth := by
  unfold decodeTaskResult
  rw [(encoded_of_encodeJson floats made).decodeJson_eq distinct]
  by_cases deep : maxJsonNestingDepth < depth result
  · rw [if_pos deep]
    apply iff_of_false
    · rintro ⟨_, impossible, _⟩
      cases impossible
    · exact not_le.mpr deep
  · rw [if_neg deep]
    exact iff_of_true ⟨_, rfl, equal_sorted result distinct⟩ (not_lt.mp deep)

theorem validateOperation_again {funcName : Option String} {serializedFunc : Option Bytes}
    {operation : String} (valid : validateOperation funcName serializedFunc = .ok operation) :
    validateOperation (some operation) none = .ok operation := by
  unfold validateOperation at valid
  rcases raiseIf_bind_eq_ok.mp valid with ⟨-, valid⟩
  cases funcName with
  | none => cases valid
  | some name =>
    rcases raiseIf_bind_eq_ok.mp valid with ⟨allowed, valid⟩
    cases valid
    unfold validateOperation
    apply raiseIf_bind_eq_ok.mpr
    exact ⟨fun something => something rfl, raiseIf_bind_eq_ok.mpr ⟨allowed, rfl⟩⟩

theorem of_mapError_eq_ok {ε ε' α : Type} {body : Except ε α} {change : ε -> ε'} {value : α}
    (ok : body.mapError change = .ok value) : body = .ok value := by
  cases body with
  | error error => cases ok
  | ok other => exact congrArg Except.ok (Except.ok.inj ok)

theorem prepared_of_prepareTaskPayload {role funcName : Option String}
    {serializedFunc : Option Bytes} {args : Option (List (Value F))} {kwargs : Option (Fields F)}
    {operation : String} {encodedArgs encodedKwargs : Bytes}
    (accepted : prepareTaskPayload floats stack role funcName serializedFunc args kwargs =
      .ok (operation, encodedArgs, encodedKwargs)) :
    validateOperation (some operation) none = .ok operation ∧
      encodeTaskArguments floats stack args kwargs = .ok (encodedArgs, encodedKwargs) := by
  unfold prepareTaskPayload at accepted
  rcases bind_eq_ok.mp accepted with ⟨_, -, accepted⟩
  rcases bind_eq_ok.mp accepted with ⟨_, valid, accepted⟩
  rcases bind_eq_ok.mp accepted with ⟨_, made, accepted⟩
  cases accepted
  exact ⟨validateOperation_again (of_mapError_eq_ok valid), of_mapError_eq_ok made⟩

/-- What is encoded comes back equal exactly when it is shallow enough for the reader,
and so does a submission that the API has accepted when a worker loads it. -/
theorem payload_round_trip_iff (stack : Nat) :
    (∀ (args : Option (List (Value F))) (kwargs : Option (Fields F))
      (encodedArgs encodedKwargs : Bytes), distinctItems (args.getD []) ->
      distinctKeys (.obj (kwargs.getD [])) ->
      encodeTaskArguments floats stack args kwargs = .ok (encodedArgs, encodedKwargs) ->
      (ArgumentsReturn args kwargs
        (decodeTaskArguments floats (some encodedArgs) (some encodedKwargs)) ↔
        ShallowArguments args kwargs)) ∧
    (∀ (result : Value F) (encoded : Bytes), distinctKeys result ->
      encodeTaskResult floats stack result = .ok encoded ->
      ((∃ decoded, decodeTaskResult floats encoded = .ok decoded ∧ Equal result decoded) ↔
        depth result ≤ maxJsonNestingDepth)) ∧
    (∀ (role funcName : Option String) (serializedFunc : Option Bytes)
      (args : Option (List (Value F))) (kwargs : Option (Fields F)) (operation : String)
      (encodedArgs encodedKwargs : Bytes), distinctItems (args.getD []) ->
      distinctKeys (.obj (kwargs.getD [])) ->
      prepareTaskPayload floats stack role funcName serializedFunc args kwargs =
        .ok (operation, encodedArgs, encodedKwargs) ->
      (ArgumentsReturn args kwargs ((loadTaskPayload floats (some operation) none (some encodedArgs)
        (some encodedKwargs)).map Prod.snd) ↔ ShallowArguments args kwargs)) := by
  refine ⟨?_, ?_, ?_⟩
  · intro args kwargs encodedArgs encodedKwargs distinctArgs distinctKwargs made
    exact argumentsReturn_iff floats distinctArgs distinctKwargs made
  · intro result encoded distinct made
    exact resultReturns_iff floats distinct made
  · intro role funcName serializedFunc args kwargs operation encodedArgs encodedKwargs distinctArgs
      distinctKwargs accepted
    rcases prepared_of_prepareTaskPayload floats accepted with ⟨valid, made⟩
    have loaded : (loadTaskPayload floats (some operation) none (some encodedArgs)
        (some encodedKwargs)).map Prod.snd =
          decodeTaskArguments floats (some encodedArgs) (some encodedKwargs) := by
      unfold loadTaskPayload
      rw [valid]
      dsimp only [bind, Except.bind]
      cases decodeTaskArguments floats (some encodedArgs) (some encodedKwargs) with
      | error error => rfl
      | ok decoded => rfl
    rw [loaded]
    exact argumentsReturn_iff floats distinctArgs distinctKwargs made

end Payloads

open Vpn.PeerMessages.Sample (wholeFloats)

def shallowArgs : List (Value Int) := [.float 1, .str "a[b"]

def shallowKwargs : Fields Int := [("size", .int 3), ("axes", .arr [.null, .bool true])]

theorem shallow_encoded :
    (encodeTaskArguments wholeFloats 1000 (some shallowArgs) (some shallowKwargs)).toOption.isSome =
      true := by
  decide +kernel

/-- A float and a text with a bracket come back. -/
theorem payload_round_trip_shallow : ∃ encodedArgs encodedKwargs,
    encodeTaskArguments wholeFloats 1000 (some shallowArgs) (some shallowKwargs) =
      .ok (encodedArgs, encodedKwargs) ∧
    ArgumentsReturn (some shallowArgs) (some shallowKwargs)
      (decodeTaskArguments wholeFloats (some encodedArgs) (some encodedKwargs)) := by
  rcases Option.isSome_iff_exists.mp shallow_encoded with ⟨⟨encodedArgs, encodedKwargs⟩, made⟩
  have encoded := ok_of_toOption made
  refine ⟨encodedArgs, encodedKwargs, encoded, ?_⟩
  apply ((payload_round_trip_iff wholeFloats 1000).1 (some shallowArgs) (some shallowKwargs)
    encodedArgs encodedKwargs ?_ ?_ encoded).mpr
  · exact ⟨by decide, by decide⟩
  · exact ⟨trivial, trivial, trivial⟩
  · exact ⟨by decide, trivial, ⟨trivial, trivial, trivial⟩, trivial⟩

def nestedList : Nat -> Value Int
  | 0 => .arr []
  | more + 1 => .arr [nestedList more]

theorem nested_encoded :
    (encodeTaskArguments wholeFloats 1000 (some [nestedList 99]) none).toOption.isSome = true := by
  decide +kernel

theorem distinctKeys_nestedList (more : Nat) : distinctKeys (nestedList more) := by
  induction more with
  | zero => trivial
  | succ more ih => exact ⟨ih, trivial⟩

theorem depth_nestedList (more : Nat) : depth (nestedList more) = more + 1 := by
  induction more with
  | zero => rfl
  | succ more ih =>
    rw [nestedList, depth, itemsDepth, ih, itemsDepth]
    omega

/-- Arguments of 101 levels are written, and refused when they are read. -/
theorem nested_payload_refused :
    ¬ ∀ (F : Type) (floats : Floats F) (stack : Nat) (args : Option (List (Value F)))
      (kwargs : Option (Fields F)) (encodedArgs encodedKwargs : Bytes),
      distinctItems (args.getD []) -> distinctKeys (.obj (kwargs.getD [])) ->
      encodeTaskArguments floats stack args kwargs = .ok (encodedArgs, encodedKwargs) ->
      ArgumentsReturn args kwargs
        (decodeTaskArguments floats (some encodedArgs) (some encodedKwargs)) := by
  intro returns
  rcases Option.isSome_iff_exists.mp nested_encoded with ⟨⟨encodedArgs, encodedKwargs⟩, made⟩
  have encoded := ok_of_toOption made
  have distinctArgs : distinctItems ((some [nestedList 99]).getD []) :=
    ⟨distinctKeys_nestedList 99, trivial⟩
  have distinctKwargs : distinctKeys (Value.obj ((none : Option (Fields Int)).getD [])) :=
    ⟨List.nodup_nil, trivial⟩
  have returned := returns Int wholeFloats 1000 (some [nestedList 99]) none encodedArgs encodedKwargs
    distinctArgs distinctKwargs encoded
  have shallow := (argumentsReturn_iff wholeFloats distinctArgs distinctKwargs encoded).mp returned
  have deep : maxJsonNestingDepth < depth (nestedList 100) := by
    rw [depth_nestedList]
    decide
  exact absurd shallow.1 (not_le.mpr deep)

end SafeTask
end Queue
end ZepGpu
