import ZepGpu.Foundation.Sha256
import ZepGpu.Queue.SafeTask
import ZepGpu.Queue.Tasks

namespace ZepGpu
namespace Queue

open Foundation Rooms
open Foundation.Json (Value Floats)

/-!
# Stored results

A worker writes the result of an operation to a store that chooses its backend by
the size, and the API reads it for the owner of the task.  Each side makes a store
of its own.  The store keeps what it is given once it is initialized; neither side
initializes it.
-/

/-- `bytes.fromhex(text)`, on a text without blanks. -/
def fromHex? : List Char -> Option Bytes
  | [] => some []
  | high :: low :: rest => do
      let first ← Json.hexDigit? high
      let second ← Json.hexDigit? low
      let others ← fromHex? rest
      some (UInt8.ofNat (first * 16 + second) :: others)
  | [_] => none

/-- `base64.b64encode(data).decode()` and `base64.b64decode(text)`. -/
structure Base64 where
  encode : Bytes -> String
  decode : String -> Option Bytes

inductive StoreError where
  /-- `AssertionError` -/
  | assertion
  /-- `RuntimeError` -/
  | runtime (message : String)
  /-- `ValueError` -/
  | value
  deriving DecidableEq, Repr

/-- A stored value with its size. -/
structure StoredResult where
  result : String
  size : Nat
  deriving DecidableEq

/-- The results that have not expired in Redis, by their keys, and the objects of the
bucket. -/
structure Backends where
  taskResults : String -> Option StoredResult
  objects : String -> Option Bytes

structure RedisQueue where
  connected : Bool := false

structure StorageClient where
  connected : Bool := false

def taskResultKey (taskId : String) : String :=
  "deepiri:tasks:results:" ++ taskId

def objectKey (taskId : String) : String :=
  "results/" ++ taskId

namespace RedisQueue

def setTaskResult (queue : RedisQueue) (taskId : String) (result : StoredResult)
    (backends : Backends) : Except StoreError Backends := do
  raiseIf (queue.connected = false) (.runtime "Redis not connected")
  .ok { backends with
    taskResults := Function.update backends.taskResults (taskResultKey taskId) (some result) }

def getTaskResult (queue : RedisQueue) (taskId : String) (backends : Backends) :
    Except StoreError (Option StoredResult) := do
  raiseIf (queue.connected = false) (.runtime "Redis not connected")
  .ok (backends.taskResults (taskResultKey taskId))

end RedisQueue

namespace StorageClient

def uploadResult (client : StorageClient) (taskId : String) (data : Bytes) (backends : Backends) :
    Except StoreError (String × Backends) := do
  raiseIf (client.connected = false) .assertion
  .ok (objectKey taskId,
    { backends with objects := Function.update backends.objects (objectKey taskId) (some data) })

def downloadResult (client : StorageClient) (taskId : String) (backends : Backends) :
    Except StoreError (Option Bytes) := do
  raiseIf (client.connected = false) .assertion
  .ok (backends.objects (objectKey taskId))

def generatePresignedUrl (client : StorageClient) (presign : String -> Option String)
    (taskId : String) : Except StoreError (Option String) := do
  raiseIf (client.connected = false) .assertion
  .ok (presign (objectKey taskId))

end StorageClient

/-- Where a result is kept. -/
inductive StorageType where
  | redis
  | s3
  | inline
  deriving DecidableEq, Repr

/-- Without arguments, the store that `ResultStore()` makes. -/
structure ResultStore where
  initialized : Bool := false
  redisClient : Option RedisQueue := none
  s3Client : Option StorageClient := none

namespace ResultStore

def smallResultThreshold : Nat := 1024 * 1024

def largeResultThreshold : Nat := 100 * 1024 * 1024

def storeResult (base64 : Base64) (store : ResultStore) (taskId : String) (result : Bytes)
    (storeInS3 : Bool) (backends : Backends) :
    Except StoreError ((StorageType × Option String × Nat) × Backends) :=
  match store.redisClient, store.s3Client with
  | some redis, some s3 => do
      if result.length ≤ smallResultThreshold then
        let backends ← redis.setTaskResult taskId ⟨hexText result, result.length⟩ backends
        .ok ((.redis, some taskId, result.length), backends)
      else if storeInS3 = true ∧ result.length ≤ largeResultThreshold then
        let (key, backends) ← s3.uploadResult taskId result backends
        .ok ((.s3, some key, result.length), backends)
      else .ok ((.inline, some (base64.encode result), result.length), backends)
  | _, _ => .error .assertion

def retrieveResult (base64 : Base64) (store : ResultStore) (taskId : String)
    (storageType : StorageType) (storageRef : Option String) (backends : Backends) :
    Except StoreError (Option Bytes) :=
  match store.redisClient, store.s3Client with
  | some redis, some s3 =>
    match storageType with
    | .redis => do
        match ← redis.getTaskResult taskId backends with
        | none => .ok none
        | some stored =>
          match fromHex? stored.result.toList with
          | some data => .ok (some data)
          | none => .error .value
    | .s3 => s3.downloadResult taskId backends
    | .inline =>
      match storageRef with
      | none => .ok none
      | some reference =>
        if reference = "" then .ok none
        else
          match base64.decode reference with
          | some data => .ok (some data)
          | none => .error .value
  | _, _ => .error .assertion

def getPresignedUrl (store : ResultStore) (presign : String -> Option String) (taskId : String) :
    Except StoreError (Option String) :=
  match store.s3Client with
  | some s3 => s3.generatePresignedUrl presign taskId
  | none => .error .assertion

end ResultStore

/-- The columns of a task that say what to run. -/
structure StoredPayload where
  funcName : Option String
  serializedFunc : Option Bytes := none
  args : Option Bytes := none
  kwargs : Option Bytes := none

/-- The tasks, what they run, and where results go. -/
structure ResultTables where
  store : TaskStore
  payloads : Uuid -> StoredPayload
  backends : Backends

/-- How the operation of a task ends. -/
inductive OperationResult (F : Type) where
  /-- It returns, with a value unless this is `None`. -/
  | returned (value : Option (Value F))
  | timedOut
  | raised (error : String)

/-- What `str` makes of an exception of the store. -/
def StoreError.text : StoreError -> String
  | .assertion => ""
  | .runtime message => message
  | .value => "non-hexadecimal number found in fromhex() arg"

abbrev Operations (F : Type) := String -> List (Value F) -> SafeTask.Fields F -> OperationResult F

/-- How `execute_task` ends on an exception of the payload. -/
def payloadFailure : SafeTask.PayloadError -> Attempt
  | .unsafePayload message => .rejected message
  | .recursion => .raised "maximum recursion depth exceeded"

section Results

variable {F : Type} (floats : Floats F) (stack : Nat) (base64 : Base64)

def storeOutcome (taskId : String) (value : Value F) (backends : Backends) : Attempt × Backends :=
  match SafeTask.encodeTaskResult floats stack value with
  | .error error => (payloadFailure error, backends)
  | .ok data =>
    let resultStore : ResultStore := {}
    match resultStore.storeResult base64 taskId data true backends with
    | .error error => (.raised error.text, backends)
    | .ok (_, backends) => (.returned true, backends)

/-- The `try` of `execute_task`. -/
def attemptTask (operations : Operations F) (taskId : String) (payload : StoredPayload)
    (backends : Backends) : Attempt × Backends :=
  match SafeTask.loadTaskPayload floats payload.funcName payload.serializedFunc payload.args
      payload.kwargs with
  | .error error => (payloadFailure error, backends)
  | .ok (operation, args, kwargs) =>
    match operations operation args kwargs with
    | .timedOut => (.timedOut, backends)
    | .raised error => (.raised error, backends)
    | .returned none => (.returned false, backends)
    | .returned (some value) => storeOutcome floats stack base64 taskId value backends

/-- `execute_task`.  What the attempt has stored outside of the database stays. -/
def executeTask (operations : Operations F) (taskId : Uuid) (clock : Nat -> Time)
    (tables : ResultTables) : Outcome ResultTables String ExecutionReply :=
  let attempted := attemptTask floats stack base64 operations (strOfUuid taskId)
    (tables.payloads taskId) tables.backends
  let executed := transaction (TaskStore.executeBody taskId attempted.1 clock) tables.store
  { result := executed.result
    state := { tables with
      store := executed.state
      backends := if (tables.store.prepare taskId clock).isRight then attempted.2
        else tables.backends } }

inductive ApiError where
  | http (statusCode : Int) (detail : String)
  | raised (error : StoreError)
  deriving DecidableEq, Repr

/-- The answer of the route for results. -/
structure TaskResultResponse (F : Type) where
  taskId : String
  status : TaskStatus
  result : Option (Value F)
  presignedUrl : Option String

def readResult : Option Bytes -> Except ApiError (Option (Value F))
  | none => .ok none
  | some [] => .ok none
  | some data =>
    match SafeTask.decodeTaskResult floats data with
    | .ok value => .ok (some value)
    | .error _ => .error (.http 409 "Stored legacy task result is unsupported; rerun the task")

/-- The part of `get_task_result` for a task with a reference. -/
def readReferenced (presign : String -> Option String) (taskId reference : String)
    (backends : Backends) : Except ApiError (Option (Value F) × Option String) := do
  let resultStore : ResultStore := {}
  let data ← (resultStore.retrieveResult base64 taskId .redis (some reference) backends).mapError
    ApiError.raised
  let result ← readResult floats data
  let presignedUrl ← (resultStore.getPresignedUrl presign taskId).mapError ApiError.raised
  .ok (result, presignedUrl)

def getTaskResult (presign : String -> Option String) (taskId userId : Uuid)
    (tables : ResultTables) : Except ApiError (TaskResultResponse F) := do
  match tables.store.rooms.tasks.get? taskId with
  | none => .error (.http 404 "Task not found")
  | some task => do
      raiseIf (task.userId ≠ some userId) (.http 403 "Access denied")
      match task.resultRef with
      | none => .ok ⟨strOfUuid taskId, task.status, none, none⟩
      | some "" => .ok ⟨strOfUuid taskId, task.status, none, none⟩
      | some reference => do
          let (result, presignedUrl) ← readReferenced floats base64 presign (strOfUuid taskId)
            reference tables.backends
          .ok ⟨strOfUuid taskId, task.status, result, presignedUrl⟩

end Results

end Queue
end ZepGpu
