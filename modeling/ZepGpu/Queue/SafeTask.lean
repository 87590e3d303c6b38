import ZepGpu.Foundation.JsonFields
import ZepGpu.Foundation.JsonNesting

namespace ZepGpu
namespace Queue
namespace SafeTask

open Foundation
open Foundation.Json

/-!
# Payloads that cross the boundary of the workers

A submission is written as JSON when the API accepts it and read again by the
worker that executes it; a result goes the other way.  Both sides have the same
limits on the size.  The limit on the nesting is one of the reader alone, so that
what the writer accepts is read back exactly when it is shallow enough.

A stored text that names half of a surrogate pair has no value here; the writer
makes none.
-/

def maxTaskArgumentBytes : Nat := 64 * 1024

def maxTaskResultBytes : Nat := 1024 * 1024

def maxJsonNestingDepth : Nat := 100

inductive PayloadError where
  /-- `UnsafeTaskPayloadError` -/
  | unsafePayload (message : String)
  /-- The writer has run out of stack. -/
  | recursion
  deriving DecidableEq, Repr

def allowedOperationNames : List String := ["math.sqrt"]

def validateOperation (funcName : Option String) (serializedFunc : Option Bytes) :
    Except PayloadError String := do
  raiseIf (serializedFunc.getD [] ≠ []) (.unsafePayload
    "Serialized Python callables are no longer accepted; use an allowlisted operation")
  match funcName with
  | some name =>
    raiseIf (name ∉ allowedOperationNames) (.unsafePayload
      ("Unsupported task operation; allowed operations: " ++ ", ".intercalate allowedOperationNames))
    .ok name
  | none => .error (.unsafePayload
      ("Unsupported task operation; allowed operations: " ++ ", ".intercalate allowedOperationNames))

section Payloads

variable {F : Type} (floats : Floats F)

abbrev Fields (F : Type) := List (String × Value F)

/-- `_encode_json`.  The writer takes values of any depth that its stack allows. -/
def encodeJson (stack : Nat) (value : Value F) (maximum : Nat) (label : String) :
    Except PayloadError Bytes := do
  raiseIf (stack < depth value) .recursion
  raiseIf (writable floats value = false)
    (.unsafePayload (label ++ " must contain JSON primitives only"))
  let encoded := utf8Chars (text floats (sorted value))
  raiseIf (maximum < encoded.length)
    (.unsafePayload (label ++ " exceeds the " ++ toString maximum ++ "-byte limit"))
  .ok encoded

def encodeTaskArguments (stack : Nat) (args : Option (List (Value F))) (kwargs : Option (Fields F)) :
    Except PayloadError (Bytes × Bytes) := do
  let args ← encodeJson floats stack (.arr (args.getD [])) maxTaskArgumentBytes "Task arguments"
  let kwargs ← encodeJson floats stack (.obj (kwargs.getD [])) maxTaskArgumentBytes "Task keywords"
  .ok (args, kwargs)

def encodeTaskResult (stack : Nat) (result : Value F) : Except PayloadError Bytes :=
  encodeJson floats stack result maxTaskResultBytes "Task result"

def validateJsonNesting (text : List Char) (maximumDepth : Nat) (label : String) :
    Except PayloadError Unit :=
  raiseIf (nestsBeyond maximumDepth 0 false false text = true)
    (.unsafePayload (label ++ " exceeds the maximum JSON nesting depth"))

/-- `json.loads`, which skips blanks around the value. -/
def loads (text : List Char) : Except ReadError (Value F) :=
  if text.head? = some '\uFEFF' then .error .malformed
  else
    match rawDecodeValue floats (skipBlanks text) with
    | .error error => .error error
    | .ok (value, rest) => if skipBlanks rest = [] then .ok value else .error .malformed

/-- What `_decode_json` makes of an error of the reader. -/
def readFailure (label : String) : ReadError -> PayloadError
  | .duplicateField => .unsafePayload "Duplicate JSON object field"
  | .invalidConstant name => .unsafePayload ("Invalid JSON constant: " ++ name)
  | .malformed => .unsafePayload (label ++ " is not valid strict JSON")
  | .loneSurrogate => .unsafePayload (label ++ " is not valid strict JSON")

def decodeJson (data : Bytes) (maximum : Nat) (label : String) : Except PayloadError (Value F) := do
  raiseIf (maximum < data.length)
    (.unsafePayload (label ++ " exceeds the " ++ toString maximum ++ "-byte limit"))
  match ofUtf8? data with
  | none => .error (.unsafePayload (label ++ " is not valid strict JSON"))
  | some text => do
      validateJsonNesting text.toList maxJsonNestingDepth label
      match loads floats text.toList with
      | .error error => .error (readFailure label error)
      | .ok value => .ok value

/-- `stored or default` of the stored bytes. -/
def orBytes (stored : Option Bytes) (default : String) : Bytes :=
  match stored with
  | none => utf8 default
  | some [] => utf8 default
  | some data => data

def decodeTaskArguments (args kwargs : Option Bytes) :
    Except PayloadError (List (Value F) × Fields F) := do
  let decodedArgs ← decodeJson floats (orBytes args "[]") maxTaskArgumentBytes "Task arguments"
  let decodedKwargs ← decodeJson floats (orBytes kwargs "{}") maxTaskArgumentBytes "Task keywords"
  match decodedArgs, decodedKwargs with
  | .arr args, .obj kwargs => .ok (args, kwargs)
  | _, _ => .error (.unsafePayload
      "Task arguments must be a list and keywords must be an object")

def decodeTaskResult (data : Bytes) : Except PayloadError (Value F) :=
  decodeJson floats data maxTaskResultBytes "Task result"

/-- How a submission is refused. -/
inductive SubmissionError where
  | unauthorized
  | forbidden
  | refused (statusCode : Int) (detail : String)
  | recursion
  deriving DecidableEq, Repr

def taskSubmitterRoles : List String := ["admin", "researcher"]

/-- `require_task_submitter`, on the role of the user if there is one. -/
def requireTaskSubmitter : Option String -> Except SubmissionError Unit
  | none => .error .unauthorized
  | some role => raiseIf (role ∉ taskSubmitterRoles) .forbidden

def submissionError (serializedFunc : Option Bytes) : PayloadError -> SubmissionError
  | .unsafePayload message => .refused (if serializedFunc.getD [] ≠ [] then 410 else 422) message
  | .recursion => .recursion

def prepareTaskPayload (stack : Nat) (role : Option String) (funcName : Option String)
    (serializedFunc : Option Bytes) (args : Option (List (Value F))) (kwargs : Option (Fields F)) :
    Except SubmissionError (String × Bytes × Bytes) := do
  requireTaskSubmitter role
  let operation ← (validateOperation funcName serializedFunc).mapError (submissionError serializedFunc)
  let (args, kwargs) ←
    (encodeTaskArguments floats stack args kwargs).mapError (submissionError serializedFunc)
  .ok (operation, args, kwargs)

/-- What a worker reads of a stored task before it runs the operation. -/
def loadTaskPayload (funcName : Option String) (serializedFunc args kwargs : Option Bytes) :
    Except PayloadError (String × List (Value F) × Fields F) := do
  let operation ← validateOperation funcName serializedFunc
  let (args, kwargs) ← decodeTaskArguments floats args kwargs
  .ok (operation, args, kwargs)

end Payloads

end SafeTask
end Queue
end ZepGpu
