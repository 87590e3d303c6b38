import ZepGpu.Foundation.JsonFields
import ZepGpu.Foundation.JsonNesting
import ZepGpu.Vpn.PeerMessages

namespace ZepGpu
namespace Vpn
namespace PeerMessages

open Foundation List
open Foundation.Json

/-!
# When a built message is decoded again

The canonical text of a message is read back as its sorted fields, and the
schema takes sorted fields as it took the fields themselves.  What is left is
the code: the builder takes it over the values that the caller passed, and the
decoder over those that the schema stored.

All fields but one are stored as they are passed.  An integer execution time
is stored as a float and written with a fraction, so the two codes are those
of two different texts.
-/

variable {F : Type} (P : Platform) (floats : Floats F)

/-! ## What the bytes decide -/

variable {fields : Fields F} {args : ResultArguments F} {value : Value F} {raw : Bytes}

theorem decodeMessage_unique {first second : String} {kind : Option Kind}
    {left right : PeerMessage F} (decoded : decodeMessage P floats raw first kind = .ok left)
    (again : decodeMessage P floats raw second kind = .ok right) : left = right := by
  have valid : ∀ {secret : String} {fields : Fields F} {kind : Kind} {message : PeerMessage F},
      validateMessage P floats fields kind secret = .ok message ->
        validateModel floats kind fields = some message := by
    intro secret fields kind message holds
    unfold validateMessage at holds
    cases valid : validateModel floats kind fields with
    | none =>
      rw [valid] at holds
      cases holds
    | some other =>
      rw [valid] at holds
      rcases bind_eq_ok.mp holds with ⟨_, _, holds⟩
      rcases raiseIf_bind_eq_ok.mp holds with ⟨_, same⟩
      cases same
      rfl
  rcases bind_eq_ok.mp decoded with ⟨text, isText, decoded⟩
  rcases bind_eq_ok.mp decoded with ⟨fields, isFields, decoded⟩
  rcases bind_eq_ok.mp decoded with ⟨found, isKind, decoded⟩
  rcases bind_eq_ok.mp again with ⟨text', isText', again⟩
  rcases bind_eq_ok.mp again with ⟨fields', isFields', again⟩
  rcases bind_eq_ok.mp again with ⟨found', isKind', again⟩
  cases isText.symm.trans isText'
  cases isFields.symm.trans isFields'
  cases isKind.symm.trans isKind'
  exact Option.some.inj ((valid decoded).symm.trans (valid again))

/-! ## Nesting -/

theorem nestsTooDeep_eq (depth : Nat) (inString escaped : Bool) (text : List Char) :
    nestsTooDeep depth inString escaped text =
      nestsBeyond maxJsonNestingDepth depth inString escaped text := by
  induction text generalizing depth inString escaped with
  | nil => rfl
  | cons c rest ih => simp only [nestsTooDeep, nestsBeyond, ih]

theorem not_nestsTooDeep (ok : writable floats value = true)
    (shallow : depth value ≤ maxJsonNestingDepth) :
    nestsTooDeep 0 false false (text floats value) = false := by
  rw [nestsTooDeep_eq, Bool.eq_false_iff, ne_eq, nestsBeyond_iff floats ok]
  exact not_lt.mpr shallow

theorem parseJsonObject_text (ok : writable floats (.obj fields) = true)
    (distinct : distinctKeys (.obj fields)) (shallow : depth (.obj fields) ≤ maxJsonNestingDepth) :
    parseJsonObject floats (text floats (sorted (.obj fields))) = .ok (sortFields fields) := by
  have okSorted := writable_sorted floats (.obj fields) ok
  have open_ := not_nestsTooDeep floats okSorted ((depth_sorted (.obj fields)).trans_le shallow)
  have read := rawDecodeValue_text floats okSorted (distinctKeys_sorted (.obj fields) distinct)
  unfold parseJsonObject
  rw [open_, read, sorted_obj]
  rfl

/-! ## The schema on sorted fields -/

section Sorted

variable {fields : Fields F} (nodup : (fields.map Prod.fst).Nodup)

include nodup

theorem textField_sortFields (test : String -> Bool) (key : String) :
    textField test (sortFields fields) key = textField test fields key := by
  unfold textField
  rw [lookup_sortFields nodup]
  cases lookup fields key with
  | none => rfl
  | some value => cases value <;> rfl

theorem optionalTextField_sortFields (test : String -> Bool) (key : String) :
    optionalTextField test (sortFields fields) key = optionalTextField test fields key := by
  unfold optionalTextField
  rw [lookup_sortFields nodup]
  cases lookup fields key with
  | none => rfl
  | some value => cases value <;> rfl

theorem intField_sortFields (least : Int) (greatest : Option Int) (key : String) :
    intField least greatest (sortFields fields) key = intField least greatest fields key := by
  unfold intField
  rw [lookup_sortFields nodup]
  cases lookup fields key with
  | none => rfl
  | some value => cases value <;> rfl

theorem boolField_sortFields (key : String) :
    boolField (sortFields fields) key = boolField fields key := by
  unfold boolField
  rw [lookup_sortFields nodup]
  cases lookup fields key with
  | none => rfl
  | some value => cases value <;> rfl

theorem floatField_sortFields (least greatest : Rat) (key : String) :
    floatField floats least greatest (sortFields fields) key =
      floatField floats least greatest fields key := by
  unfold floatField
  rw [lookup_sortFields nodup]
  cases lookup fields key with
  | none => rfl
  | some value => cases value <;> rfl

end Sorted

theorem allKeys_sortFields (fields : Fields F) (names : List String) :
    (sortFields fields).all (fun field => field.1 ∈ names) =
      fields.all (fun field => field.1 ∈ names) := by
  have same : ∀ list : Fields F, list.all (fun field => decide (field.1 ∈ names)) =
      (list.map Prod.fst).all (fun key => decide (key ∈ names)) := by
    intro list
    rw [all_map]
    rfl
  rw [same, same]
  exact (perm_keys_sortFields fields).all_eq

theorem validateNoopPayload_sorted (distinct : distinctKeys value) :
    validateNoopPayload (sorted value) = validateNoopPayload value := by
  cases value with
  | obj fields =>
    rw [sorted_obj]
    simp only [validateNoopPayload]
    rw [allKeys_sortFields, textField_sortFields distinct.1, lookup_sortFields distinct.1]
    cases lookup fields "message" <;> rfl
  | _ => rfl

theorem validateNoopResult_sorted (distinct : distinctKeys value) :
    validateNoopResult (sorted value) = validateNoopResult value := by
  cases value with
  | obj fields =>
    rw [sorted_obj]
    have status : statusField (sortFields fields) = statusField fields := by
      unfold statusField
      rw [textField_sortFields distinct.1, lookup_sortFields distinct.1]
      cases lookup fields "status" <;> rfl
    simp only [validateNoopResult, allKeys_sortFields, textField_sortFields distinct.1, status]
  | _ => rfl

theorem distinctKeys_of_lookup (distinct : distinctKeys (.obj fields)) {key : String}
    (found : lookup fields key = some value) : distinctKeys value :=
  distinctFields_iff.mp distinct.2 (key, value) ((lookup_eq_some_iff distinct.1).mp found)

theorem optionalResult_sortFields (distinct : distinctKeys (.obj fields)) :
    optionalResult (sortFields fields) = optionalResult fields := by
  unfold optionalResult
  rw [lookup_sortFields distinct.1]
  cases found : lookup fields "result" with
  | none => rfl
  | some value =>
    have same := validateNoopResult_sorted (distinctKeys_of_lookup distinct found)
    cases value with
    | null => rfl
    | _ => exact congrArg (Option.map some) same

theorem validateExecute_sortFields (distinct : distinctKeys (.obj fields)) :
    validateExecute (sortFields fields) = validateExecute fields := by
  have payload : (lookup (sortFields fields) "payload").bind validateNoopPayload =
      (lookup fields "payload").bind validateNoopPayload := by
    rw [lookup_sortFields distinct.1]
    cases found : lookup fields "payload" with
    | none => rfl
    | some value => exact validateNoopPayload_sorted (distinctKeys_of_lookup distinct found)
  simp only [validateExecute, allKeys_sortFields, textField_sortFields distinct.1,
    intField_sortFields distinct.1, payload]

theorem validateResult_sortFields (distinct : distinctKeys (.obj fields)) :
    validateResult floats (sortFields fields) = validateResult floats fields := by
  simp only [validateResult, allKeys_sortFields, textField_sortFields distinct.1,
    intField_sortFields distinct.1, boolField_sortFields distinct.1,
    optionalTextField_sortFields distinct.1, floatField_sortFields floats distinct.1,
    optionalResult_sortFields distinct]

theorem validateModel_sortFields (distinct : distinctKeys (.obj fields)) (kind : Kind) :
    validateModel floats kind (sortFields fields) = validateModel floats kind fields := by
  cases kind with
  | execute => rw [validateModel, validateModel, validateExecute_sortFields distinct]
  | result => rw [validateModel, validateModel, validateResult_sortFields floats distinct]

theorem calculateIntegrity_sortFields (ok : writable floats (.obj fields) = true)
    (distinct : distinctKeys (.obj fields)) (secret : String) :
    calculateIntegrity P floats (sortFields fields) secret =
      calculateIntegrity P floats fields secret := by
  have same : sortFields (unsignedPayload (sortFields fields)) = sortFields (unsignedPayload fields) :=
    sortFields_filter_sortFields distinct.1 (fun key => key ≠ "integrity")
  have all := (writableFields_iff floats).mp ok
  have okSorted := (writableFields_iff floats).mp (writable_sorted floats (.obj fields) ok)
  have first : writable floats (.obj (unsignedPayload (sortFields fields))) = true :=
    (writableFields_iff floats).mpr (fun field member => okSorted field (mem_of_mem_filter member))
  have second : writable floats (.obj (unsignedPayload fields)) = true :=
    (writableFields_iff floats).mpr (fun field member => all field (mem_of_mem_filter member))
  simp only [calculateIntegrity, canonicalJson, if_pos first, if_pos second, sorted_obj, same]

/-! ## What the schema stores

Each of these reads a field that is there: what was found is what the stored
value is written as. -/

section Stored

variable {fields : Fields F} {key : String} {value : Value F}

theorem textField_eq_some {test : String -> Bool} {stored : String}
    (found : lookup fields key = some value) (taken : textField test fields key = some stored) :
    value = .str stored := by
  unfold textField at taken
  rw [found] at taken
  split at taken
  case h_1 text isText =>
    cases isText
    split_ifs at taken
    cases taken
    rfl
  case h_2 => cases taken

theorem intField_eq_some {least stored : Int} {greatest : Option Int}
    (found : lookup fields key = some value)
    (taken : intField least greatest fields key = some stored) : value = .int stored := by
  unfold intField at taken
  rw [found] at taken
  split at taken
  case h_1 number isNumber =>
    cases isNumber
    split_ifs at taken
    cases taken
    rfl
  case h_2 => cases taken

theorem boolField_eq_some {stored : Bool} (found : lookup fields key = some value)
    (taken : boolField fields key = some stored) : value = .bool stored := by
  unfold boolField at taken
  rw [found] at taken
  split at taken
  case h_1 flag isFlag =>
    cases isFlag
    cases taken
    rfl
  case h_2 => cases taken

theorem optionalTextField_eq_some {test : String -> Bool} {stored : Option String}
    (found : lookup fields key = some value)
    (taken : optionalTextField test fields key = some stored) : value = dumpText stored := by
  unfold optionalTextField at taken
  rw [found] at taken
  split at taken
  case h_1 missing => cases missing
  case h_2 isNull =>
    cases isNull
    cases taken
    rfl
  case h_3 text isText =>
    cases isText
    split_ifs at taken
    cases taken
    rfl
  case h_4 => cases taken

theorem floatField_eq_some {least greatest : Rat} {stored : F} (found : lookup fields key = some value)
    (taken : floatField floats least greatest fields key = some stored) :
    storedFloat floats value = some stored ∧
      ∀ other, lookup other key = some (.float stored) ->
        floatField floats least greatest other key = some stored := by
  simp only [floatField, found, Option.bind_some, Option.bind_eq_bind, Option.bind_eq_some_iff] at taken
  obtain ⟨same, isStored, number, isNumber, within, bounds, taken⟩ := taken
  cases taken
  refine ⟨isStored, fun other again => ?_⟩
  simp only [floatField, again, Option.bind_some, storedFloat, Option.bind_eq_bind, isNumber, bounds]

end Stored

theorem validateNoopPayload_eq_some {payload : NoopPayload}
    (valid : validateNoopPayload (.obj [("message", value)]) = some payload) :
    value = .str payload.message := by
  rw [validateNoopPayload] at valid
  obtain ⟨_, _, valid⟩ := Option.bind_eq_some_iff.mp valid
  obtain ⟨text, isText, built⟩ := Option.map_eq_some_iff.mp valid
  have same : value = .str text := textField_eq_some rfl isText
  rw [same, ← built]

theorem validateNoopResult_eq_some {result stored : NoopResult}
    (valid : validateNoopResult (dumpNoopResult (some result) : Value F) = some stored) :
    stored = result := by
  rw [dumpNoopResult, validateNoopResult] at valid
  obtain ⟨_, _, valid⟩ := Option.bind_eq_some_iff.mp valid
  obtain ⟨status, isStatus, valid⟩ := Option.bind_eq_some_iff.mp valid
  obtain ⟨message, isMessage, built⟩ := Option.bind_eq_some_iff.mp valid
  have isText : textField (· = "ok") [("status", (.str result.status : Value F)),
      ("message", .str result.message)] "status" = some status := isStatus
  have sameStatus : (Value.str result.status : Value F) = .str status := textField_eq_some rfl isText
  have sameMessage : (Value.str result.message : Value F) = .str message :=
    textField_eq_some rfl isMessage
  cases built
  cases result
  cases sameStatus
  cases sameMessage
  rfl

theorem optionalResult_eq_some {result stored : Option NoopResult}
    (found : lookup fields "result" = some (dumpNoopResult result))
    (taken : optionalResult fields = some stored) : stored = result := by
  unfold optionalResult at taken
  rw [found] at taken
  cases result with
  | none =>
    cases taken
    rfl
  | some result =>
    obtain ⟨other, valid, same⟩ := Option.map_eq_some_iff.mp taken
    rw [← same, validateNoopResult_eq_some valid]

theorem dumpExecute_eq {ids : ExecuteIds} {args : ExecuteArguments F} {integrity : String}
    {message : ExecuteTaskMessage}
    (valid : validateExecute (executePayload ids args ++ [("integrity", .str integrity)]) =
      some message) :
    dumpExecute message = executePayload ids args ++ [("integrity", .str integrity)] := by
  unfold validateExecute at valid
  obtain ⟨_, _, valid⟩ := Option.bind_eq_some_iff.mp valid
  obtain ⟨_, _, valid⟩ := Option.bind_eq_some_iff.mp valid
  obtain ⟨_, _, valid⟩ := Option.bind_eq_some_iff.mp valid
  obtain ⟨_, isMessageId, valid⟩ := Option.bind_eq_some_iff.mp valid
  obtain ⟨_, isRoomId, valid⟩ := Option.bind_eq_some_iff.mp valid
  obtain ⟨_, isSender, valid⟩ := Option.bind_eq_some_iff.mp valid
  obtain ⟨_, isRecipient, valid⟩ := Option.bind_eq_some_iff.mp valid
  obtain ⟨_, isTaskId, valid⟩ := Option.bind_eq_some_iff.mp valid
  obtain ⟨_, isIssuedAt, valid⟩ := Option.bind_eq_some_iff.mp valid
  obtain ⟨_, _, valid⟩ := Option.bind_eq_some_iff.mp valid
  obtain ⟨_, isDevice, valid⟩ := Option.bind_eq_some_iff.mp valid
  obtain ⟨_, isMemory, valid⟩ := Option.bind_eq_some_iff.mp valid
  obtain ⟨_, isTimeout, valid⟩ := Option.bind_eq_some_iff.mp valid
  obtain ⟨_, isPayload, valid⟩ := Option.bind_eq_some_iff.mp valid
  obtain ⟨_, isIntegrity, stored⟩ := Option.bind_eq_some_iff.mp valid
  cases stored
  simp only [dumpExecute, executePayload, cons_append, nil_append,
    ← textField_eq_some rfl isMessageId, ← textField_eq_some rfl isRoomId,
    ← textField_eq_some rfl isSender, ← textField_eq_some rfl isRecipient,
    ← textField_eq_some rfl isTaskId, ← intField_eq_some rfl isIssuedAt,
    ← intField_eq_some rfl isDevice, ← intField_eq_some rfl isMemory,
    ← intField_eq_some rfl isTimeout, ← validateNoopPayload_eq_some isPayload,
    ← textField_eq_some rfl isIntegrity]

/-- The arguments with the float that the schema stores of the execution
time. -/
def ResultArguments.stored (args : ResultArguments F) : ResultArguments F :=
  { args with
    executionTime := ((storedFloat floats args.executionTime).map Value.float).getD args.executionTime }

theorem dumpResult_eq {ids : ResultIds} {integrity : String} {message : TaskResultMessage F}
    (valid : validateResult floats (resultPayload ids args ++ [("integrity", .str integrity)]) =
      some message) :
    dumpResult message =
        resultPayload ids (args.stored floats) ++ [("integrity", .str integrity)] ∧
      validateResult floats (resultPayload ids (args.stored floats) ++
        [("integrity", .str integrity)]) = some message := by
  have whole := valid
  unfold validateResult at valid
  obtain ⟨_, _, valid⟩ := Option.bind_eq_some_iff.mp valid
  obtain ⟨_, _, valid⟩ := Option.bind_eq_some_iff.mp valid
  obtain ⟨_, _, valid⟩ := Option.bind_eq_some_iff.mp valid
  obtain ⟨_, isMessageId, valid⟩ := Option.bind_eq_some_iff.mp valid
  obtain ⟨_, isRequest, valid⟩ := Option.bind_eq_some_iff.mp valid
  obtain ⟨_, isRoomId, valid⟩ := Option.bind_eq_some_iff.mp valid
  obtain ⟨_, isSender, valid⟩ := Option.bind_eq_some_iff.mp valid
  obtain ⟨_, isRecipient, valid⟩ := Option.bind_eq_some_iff.mp valid
  obtain ⟨_, isTaskId, valid⟩ := Option.bind_eq_some_iff.mp valid
  obtain ⟨_, isSuccess, valid⟩ := Option.bind_eq_some_iff.mp valid
  obtain ⟨_, isResult, valid⟩ := Option.bind_eq_some_iff.mp valid
  obtain ⟨_, isError, valid⟩ := Option.bind_eq_some_iff.mp valid
  obtain ⟨time, isTime, valid⟩ := Option.bind_eq_some_iff.mp valid
  obtain ⟨_, isDigest, valid⟩ := Option.bind_eq_some_iff.mp valid
  obtain ⟨_, isSignature, valid⟩ := Option.bind_eq_some_iff.mp valid
  obtain ⟨_, isKey, valid⟩ := Option.bind_eq_some_iff.mp valid
  obtain ⟨_, isIntegrity, valid⟩ := Option.bind_eq_some_iff.mp valid
  obtain ⟨_, _, stored⟩ := Option.bind_eq_some_iff.mp valid
  obtain ⟨isStored, again⟩ := floatField_eq_some floats rfl isTime
  have asFloat : (args.stored floats).executionTime = .float time := by
    rw [ResultArguments.stored, isStored]
    rfl
  cases stored
  constructor
  · simp only [dumpResult, resultPayload, cons_append, nil_append, asFloat]
    simp only [ResultArguments.stored,
      ← textField_eq_some rfl isMessageId, ← textField_eq_some rfl isRequest,
      ← textField_eq_some rfl isRoomId, ← textField_eq_some rfl isSender,
      ← textField_eq_some rfl isRecipient, ← textField_eq_some rfl isTaskId,
      ← boolField_eq_some rfl isSuccess, optionalResult_eq_some rfl isResult,
      ← optionalTextField_eq_some rfl isError, ← optionalTextField_eq_some rfl isDigest,
      ← optionalTextField_eq_some rfl isSignature, ← optionalTextField_eq_some rfl isKey,
      ← textField_eq_some rfl isIntegrity]
  · have found : lookup (resultPayload ids (args.stored floats) ++ [("integrity", .str integrity)])
        "execution_time" = some (.float time) := by
      rw [← asFloat]
      rfl
    rw [← whole]
    unfold validateResult
    rw [again _ found, isTime]
    rfl

theorem createResultMessage_taskId {secret : String} {message : TaskResultMessage F}
    (created : createResultMessage P floats secret args = .ok message) :
    normalizeUuid P args.taskId = some message.taskId := by
  obtain ⟨ids, isIds, created⟩ := bind_eq_ok.mp created
  obtain ⟨signed, isSigned, created⟩ := bind_eq_ok.mp created
  obtain ⟨integrity, _, isSigned⟩ := bind_eq_ok.mp isSigned
  cases isSigned
  cases valid : validateResult floats (resultPayload ids args ++ [("integrity", .str integrity)]) with
  | none =>
    rw [valid] at created
    cases created
  | some other =>
    rw [valid] at created
    cases created
    have same : message.taskId = ids.taskId :=
      Value.str.inj (Option.some.inj
        (congrArg (fun fields => lookup fields "task_id") (dumpResult_eq floats valid).1))
    obtain ⟨_, _, isIds⟩ := bind_eq_ok.mp isIds
    obtain ⟨_, _, isIds⟩ := bind_eq_ok.mp isIds
    obtain ⟨_, _, isIds⟩ := bind_eq_ok.mp isIds
    obtain ⟨_, _, isIds⟩ := bind_eq_ok.mp isIds
    obtain ⟨_, _, isIds⟩ := bind_eq_ok.mp isIds
    obtain ⟨taskId, isTaskId, isIds⟩ := bind_eq_ok.mp isIds
    cases isIds
    rw [same]
    unfold normalizedUuid at isTaskId
    cases read : normalizeUuid P args.taskId with
    | none =>
      rw [read] at isTaskId
      cases isTaskId
    | some text =>
      rw [read] at isTaskId
      cases isTaskId
      rfl

/-! ## What a message is written as -/

theorem keys_dumpExecute (message : ExecuteTaskMessage) :
    (dumpExecute message : Fields F).map Prod.fst = executeFields :=
  rfl

theorem keys_dumpResult (message : TaskResultMessage F) :
    (dumpResult message).map Prod.fst = resultFields :=
  rfl

theorem flat_dumpText (text : Option String) :
    distinctKeys (dumpText text : Value F) ∧ depth (dumpText text : Value F) = 0 := by
  cases text with
  | none => exact ⟨trivial, rfl⟩
  | some text => exact ⟨trivial, rfl⟩

theorem flat_dumpNoopResult (result : Option NoopResult) :
    distinctKeys (dumpNoopResult result : Value F) ∧ depth (dumpNoopResult result : Value F) ≤ 1 := by
  cases result with
  | none => exact ⟨trivial, Nat.zero_le _⟩
  | some result => exact ⟨⟨(by decide : ["status", "message"].Nodup), trivial, trivial, trivial⟩, le_rfl⟩

theorem distinctKeys_modelDump (message : PeerMessage F) : distinctKeys (.obj (modelDump message)) := by
  cases message with
  | execute message =>
    refine ⟨?_, ?_⟩
    · rw [modelDump, keys_dumpExecute]
      decide
    · simp [modelDump, dumpExecute, distinctFields, distinctKeys]
  | result message =>
    refine ⟨?_, ?_⟩
    · rw [modelDump, keys_dumpResult]
      decide
    · simp [modelDump, dumpResult, distinctFields, distinctKeys, flat_dumpText, flat_dumpNoopResult]

theorem depth_modelDump_le (message : PeerMessage F) :
    depth (.obj (modelDump message)) ≤ maxJsonNestingDepth := by
  have low : depth (.obj (modelDump message)) ≤ 2 := by
    cases message with
    | execute message => exact le_rfl
    | result message =>
      have nested := (flat_dumpNoopResult (F := F) message.result).2
      simp [modelDump, dumpResult, depth, fieldsDepth, flat_dumpText]
      omega
  exact low.trans (by decide)

theorem selectMessageModel_modelDump (message : PeerMessage F) :
    selectMessageModel floats (sortFields (modelDump message)) (some message.kind) =
      .ok message.kind := by
  have nodup := (distinctKeys_modelDump message).1
  have version : lookup (modelDump message) "version" = some (.int 1) := by
    cases message <;> rfl
  have kind : lookup (modelDump message) "kind" = some (.str message.kind.name) := by
    cases message <;> rfl
  unfold selectMessageModel
  rw [lookup_sortFields nodup, lookup_sortFields nodup, version, kind]
  cases message <;> rfl

/-! ## Decoding what was encoded -/

theorem decodeMessage_encoded {message : PeerMessage F} (secret : String)
    (encoded : encodeMessage floats message = .ok raw)
    (valid : validateModel floats message.kind (modelDump message) = some message) :
    decodeMessage P floats raw secret (some message.kind) = (do
      let expected ← calculateIntegrity P floats (modelDump message) secret
      raiseIf (message.integrity ≠ expected)
        (.protocol ⟨"Peer message integrity check failed", 401⟩)
      .ok message) := by
  have distinct := distinctKeys_modelDump message
  obtain ⟨bytes, isBytes, encoded⟩ := bind_eq_ok.mp encoded
  obtain ⟨short, same⟩ := raiseIf_bind_eq_ok.mp encoded
  cases same
  unfold canonicalJson at isBytes
  split_ifs at isBytes with ok
  cases isBytes
  have nonempty : utf8Chars (text floats (sorted (.obj (modelDump message)))) ≠ [] := by
    intro none
    obtain ⟨c, rest, isText, _⟩ :=
      startsValue_text floats (writable_sorted floats (.obj (modelDump message)) ok) []
    have empty : text floats (sorted (.obj (modelDump message))) = [] := utf8Chars_injective none
    rw [append_nil, empty] at isText
    cases isText
  unfold decodeMessage
  rw [decodeUtf8_utf8Chars nonempty (not_lt.mp short)]
  change (do
    let fields ← parseJsonObject floats (String.ofList _).toList
    let kind ← selectMessageModel floats fields (some message.kind)
    validateMessage P floats fields kind secret) = _
  rw [String.toList_ofList, parseJsonObject_text floats ok distinct (depth_modelDump_le message)]
  change (do
    let kind ← selectMessageModel floats (sortFields (modelDump message)) (some message.kind)
    validateMessage P floats (sortFields (modelDump message)) kind secret) = _
  rw [selectMessageModel_modelDump]
  change validateMessage P floats (sortFields (modelDump message)) message.kind secret = _
  rw [validateMessage, validateModel_sortFields floats distinct, valid]
  simp only [calculateIntegrity_sortFields P floats ok distinct]

theorem calculateIntegrity_signed (payload : Fields F) (code : Value F) (secret : String) :
    calculateIntegrity P floats (payload ++ [("integrity", code)]) secret =
      calculateIntegrity P floats payload secret := by
  have same : unsignedPayload (payload ++ [("integrity", code)]) = unsignedPayload payload := by
    simp [unsignedPayload, filter_append]
  rw [calculateIntegrity, calculateIntegrity, same]

/-- The code that the builder of a result takes over its arguments. -/
def resultIntegrity (secret : String) (args : ResultArguments F) : Except PeerError String := do
  let ids ← resultIds P args
  calculateIntegrity P floats (resultPayload ids args) secret

/-- Whether the code of a result is that of what is written: its execution time
is a float, or the text with the integer and the text with the float have one
code. -/
def TimeKept (secret : String) (args : ResultArguments F) : Prop :=
  (∃ time, args.executionTime = .float time) ∨
    resultIntegrity P floats secret (args.stored floats) = resultIntegrity P floats secret args

theorem stored_of_float {time : F} (isFloat : args.executionTime = .float time) :
    args.stored floats = args := by
  cases args
  cases isFloat
  rfl

theorem execute_decoded {secret : String} {args : ExecuteArguments F} {message : ExecuteTaskMessage}
    (created : createExecuteMessage P floats secret args = .ok message)
    (encoded : encodeMessage floats (.execute message) = .ok raw) :
    decodeMessage P floats raw secret (some .execute) = .ok (.execute message) := by
  obtain ⟨ids, _, created⟩ := bind_eq_ok.mp created
  obtain ⟨signed, isSigned, created⟩ := bind_eq_ok.mp created
  obtain ⟨integrity, isIntegrity, isSigned⟩ := bind_eq_ok.mp isSigned
  cases isSigned
  cases valid : validateExecute (executePayload ids args ++ [("integrity", .str integrity)]) with
  | none =>
    rw [valid] at created
    cases created
  | some other =>
    rw [valid] at created
    cases created
    have written : modelDump (.execute message) =
        executePayload ids args ++ [("integrity", .str integrity)] := dumpExecute_eq valid
    have accepted : validateModel floats Kind.execute (modelDump (.execute message)) =
        some (.execute message) := by
      rw [written, validateModel, valid]
      rfl
    have sameCode : message.integrity = integrity :=
      Value.str.inj (Option.some.inj (congrArg (fun fields => lookup fields "integrity") written))
    refine (decodeMessage_encoded P floats secret encoded accepted).trans ?_
    rw [written, calculateIntegrity_signed, isIntegrity]
    exact raiseIf_bind_eq_ok.mpr ⟨not_not.mpr sameCode, rfl⟩

theorem result_decoded_iff {secret : String} {message : TaskResultMessage F}
    (created : createResultMessage P floats secret args = .ok message)
    (encoded : encodeMessage floats (.result message) = .ok raw) :
    decodeMessage P floats raw secret (some .result) = .ok (.result message) ↔
      TimeKept P floats secret args := by
  obtain ⟨ids, isIds, created⟩ := bind_eq_ok.mp created
  obtain ⟨signed, isSigned, created⟩ := bind_eq_ok.mp created
  obtain ⟨integrity, isIntegrity, isSigned⟩ := bind_eq_ok.mp isSigned
  cases isSigned
  cases valid : validateResult floats (resultPayload ids args ++ [("integrity", .str integrity)]) with
  | none =>
    rw [valid] at created
    cases created
  | some other =>
    rw [valid] at created
    cases created
    obtain ⟨dumped, again⟩ := dumpResult_eq floats valid
    have written : modelDump (.result message) =
        resultPayload ids (args.stored floats) ++ [("integrity", .str integrity)] := dumped
    have accepted : validateModel floats Kind.result (modelDump (.result message)) =
        some (.result message) := by
      rw [written, validateModel, again]
      rfl
    have sameCode : message.integrity = integrity :=
      Value.str.inj (Option.some.inj (congrArg (fun fields => lookup fields "integrity") written))
    have ofArgs : resultIntegrity P floats secret args = .ok integrity := by
      rw [resultIntegrity, isIds]
      exact isIntegrity
    have ofStored : resultIntegrity P floats secret (args.stored floats) =
        calculateIntegrity P floats (resultPayload ids (args.stored floats)) secret := by
      have sameIds : resultIds P (args.stored floats) = .ok ids := isIds
      rw [resultIntegrity, sameIds]
      rfl
    have decoded := decodeMessage_encoded P floats secret encoded accepted
    rw [written, calculateIntegrity_signed, ← ofStored] at decoded
    constructor
    · intro isDecoded
      obtain ⟨expected, isExpected, isDecoded⟩ := bind_eq_ok.mp (decoded.symm.trans isDecoded)
      obtain ⟨kept, _⟩ := raiseIf_bind_eq_ok.mp isDecoded
      have coincide : expected = integrity := (not_not.mp kept).symm.trans sameCode
      exact Or.inr (by rw [isExpected, ofArgs, coincide])
    · intro kept
      have coincide : resultIntegrity P floats secret (args.stored floats) = .ok integrity := by
        rcases kept with ⟨time, isFloat⟩ | coincide
        · rw [stored_of_float floats isFloat, ofArgs]
        · rw [coincide, ofArgs]
      refine decoded.trans ?_
      rw [coincide]
      exact raiseIf_bind_eq_ok.mpr ⟨not_not.mpr sameCode, rfl⟩

/-- What is built and encoded is decoded to itself: every request, and a result
exactly when the code of its text is kept. -/
theorem round_trip_iff (secret : String) :
    (∀ (args : ExecuteArguments F) message raw,
      createExecuteMessage P floats secret args = .ok message ->
        encodeMessage floats (.execute message) = .ok raw ->
          decodeMessage P floats raw secret (some .execute) = .ok (.execute message)) ∧
    (∀ (args : ResultArguments F) message raw,
      createResultMessage P floats secret args = .ok message ->
        encodeMessage floats (.result message) = .ok raw ->
          (decodeMessage P floats raw secret (some .result) = .ok (.result message) ↔
            TimeKept P floats secret args)) :=
  ⟨fun _ _ _ created encoded => execute_decoded P floats created encoded,
    fun _ _ _ created encoded => result_decoded_iff P floats created encoded⟩

/-! ## A second as an integer and as a float -/

namespace Sample

/-- A stand-in for SHA-256. -/
def digest (data : Bytes) : Bytes :=
  List.replicate 28 0 ++ bigEndian 4 (data.foldl (fun sum byte => sum * 31 + byte.toNat) 7)

theorem length_digest (data : Bytes) : (digest data).length = 32 := by
  rw [digest, length_append, length_replicate, length_bigEndian]

def platform : Platform where
  sha256 := digest
  hmacSha256Hex := fun key message => hexText (digest (key ++ message))
  uuidOfString := Ledger.Reference.uuidOfString
  strOfUuid := Ledger.Reference.strOfUuid
  uuid5 := fun _ => 0
  sha256_length := length_digest
  hmacSha256Hex_length := fun key message => by
    rw [length_hexText, length_digest]
  hmacSha256Hex_digits := fun _ _ _ member => mem_hexText member
  uuidOfString_strOfUuid := Ledger.Reference.uuidOfString_strOfUuid
  signMessage := fun _ _ => none

def roomId : String := "11111111-1111-4111-8111-111111111111"
def peerId : String := "44444444-4444-4444-8444-444444444444"
def firstSender : String := "22222222-2222-4222-8222-222222222222"
def secondSender : String := "33333333-3333-4333-8333-333333333333"
def firstToken : String := "sender-token-that-is-at-least-thirty-two-bytes"
def secondToken : String := "other-sender-token-that-is-at-least-thirty-two-bytes"

/-- The whole numbers up to `2 ** 53`, with the texts of floats. -/
def wholeFloats : Floats Int where
  value := fun n => if n.natAbs ≤ 2 ^ 53 then some n else none
  repr := fun n => (toString n).toList ++ ['.', '0']
  ofLiteral := fun text => (readInt? (text.take (text.length - 2))).getD 0
  ofInt := id
  value_ofInt := fun n small => if_pos small
  repr_literal := fun n _ => by
    refine ⟨⟨decide (n < 0), Nat.toDigits 10 n.natAbs, ['0'], none, Nat.toDigits_ne_nil, ?_,
      toDigits_leading _, ?_, ?_, ?_, Or.inl (by decide)⟩, ?_⟩
    · exact fun c member => isAsciiDigit_of_isDigit
        (Nat.isDigit_of_mem_toDigits (b := 10) (by decide) (by decide) member)
    · exact fun c member => mem_singleton.mp member ▸ (by decide)
    · exact fun _ _ impossible => nomatch impossible
    · exact fun _ _ impossible => nomatch impossible
    · rw [toString_eq_signText]
      simp [FloatLiteral.text, fractionText, exponentText]
  ofLiteral_repr := fun n finite => by
    have small : n.natAbs ≤ 2 ^ 53 := by
      by_contra large
      rw [if_neg large] at finite
      cases finite
    have short : (Nat.toDigits 10 n.natAbs).length ≤ 16 :=
      (Nat.length_toDigits_le_iff (by decide) (by decide)).mpr
        (small.trans_lt (by norm_num))
    have digits : ((toString n).toList ++ ['.', '0']).take
        (((toString n).toList ++ ['.', '0']).length - 2) = (toString n).toList := by
      rw [length_append]
      exact take_left
    change (readInt? _).getD 0 = n
    rw [digits, readInt?_toString (short.trans (by decide))]
    rfl

def request : ExecuteArguments Int where
  messageId := "55555555-5555-4555-8555-555555555555"
  roomId := roomId
  senderPeerId := firstSender
  recipientPeerId := peerId
  taskId := "AAAAAAAA-1111-4111-8111-111111111111"
  issuedAt := .int 1030
  gpuDeviceId := .int 0
  gpuMemoryMb := .int 1024
  timeoutSeconds := .int 60

def failure (second : Value Int) : ResultArguments Int where
  messageId := "66666666-6666-4666-8666-666666666666"
  requestMessageId := "55555555-5555-4555-8555-555555555555"
  roomId := roomId
  senderPeerId := peerId
  recipientPeerId := firstSender
  taskId := "AAAAAAAA-1111-4111-8111-111111111111"
  success := .bool false
  result := none
  error := .str "no device"
  executionTime := second

theorem request_built : (createExecuteMessage platform wholeFloats firstToken request >>=
    fun message => encodeMessage wholeFloats (.execute message)).toOption.isSome = true := by
  decide +kernel

theorem failure_built : ∀ second, second ∈ [Value.int 1, Value.float 1] ->
    (createResultMessage platform wholeFloats firstToken (failure second) >>=
      fun message => encodeMessage wholeFloats (.result message)).toOption.isSome = true := by
  intro second member
  rcases mem_cons.mp member with rfl | member
  · decide +kernel
  · rw [mem_singleton.mp member]
    decide +kernel

theorem codes_differ :
    (resultIntegrity platform wholeFloats firstToken
      ((failure (.int 1)).stored wholeFloats)).toOption ≠
    (resultIntegrity platform wholeFloats firstToken (failure (.int 1))).toOption := by
  decide +kernel

theorem steps_of_isSome {ε α β : Type} {first : Except ε α} {next : α -> Except ε β}
    (done : (first >>= next).toOption.isSome = true) :
    ∃ middle value, first = .ok middle ∧ next middle = .ok value := by
  obtain ⟨value, isValue⟩ := Option.isSome_iff_exists.mp done
  obtain ⟨middle, isMiddle, isNext⟩ := bind_eq_ok.mp (ok_of_toOption isValue)
  exact ⟨middle, value, isMiddle, isNext⟩

theorem not_timeKept : ¬ TimeKept platform wholeFloats firstToken (failure (.int 1)) := by
  rintro (⟨time, isFloat⟩ | coincide)
  · cases isFloat
  · exact codes_differ (congrArg Except.toOption coincide)

end Sample

/-- A request and a result with a float are decoded to themselves. -/
theorem round_trip_sample :
    (∃ message raw,
      createExecuteMessage Sample.platform Sample.wholeFloats Sample.firstToken Sample.request =
        .ok message ∧
      encodeMessage Sample.wholeFloats (.execute message) = .ok raw ∧
      decodeMessage Sample.platform Sample.wholeFloats raw Sample.firstToken (some .execute) =
        .ok (.execute message)) ∧
    (∃ message raw,
      createResultMessage Sample.platform Sample.wholeFloats Sample.firstToken
        (Sample.failure (.float 1)) = .ok message ∧
      encodeMessage Sample.wholeFloats (.result message) = .ok raw ∧
      decodeMessage Sample.platform Sample.wholeFloats raw Sample.firstToken (some .result) =
        .ok (.result message)) := by
  constructor
  · obtain ⟨message, raw, created, encoded⟩ := Sample.steps_of_isSome Sample.request_built
    exact ⟨message, raw, created, encoded,
      (round_trip_iff Sample.platform Sample.wholeFloats Sample.firstToken).1 _ _ _ created encoded⟩
  · obtain ⟨message, raw, created, encoded⟩ :=
      Sample.steps_of_isSome (Sample.failure_built (.float 1) (by simp))
    exact ⟨message, raw, created, encoded,
      ((round_trip_iff Sample.platform Sample.wholeFloats Sample.firstToken).2 _ _ _ created
        encoded).mpr (Or.inl ⟨1, rfl⟩)⟩

/-- A result with an integer is built and encoded, and is not decoded. -/
theorem whole_second_refused : ∃ message raw,
    createResultMessage Sample.platform Sample.wholeFloats Sample.firstToken
      (Sample.failure (.int 1)) = .ok message ∧
    encodeMessage Sample.wholeFloats (.result message) = .ok raw ∧
    decodeMessage Sample.platform Sample.wholeFloats raw Sample.firstToken (some .result) ≠
      .ok (.result message) := by
  obtain ⟨message, raw, created, encoded⟩ :=
    Sample.steps_of_isSome (Sample.failure_built (.int 1) (by simp))
  refine ⟨message, raw, created, encoded, fun decoded => Sample.not_timeKept ?_⟩
  exact (result_decoded_iff Sample.platform Sample.wholeFloats created encoded).mp decoded

end PeerMessages
end Vpn
end ZepGpu
