import ZepGpu.Queue.ResultStore
import ZepGpu.Queue.TaskSteps
import ZepGpu.Vpn.MessageRoundTrip

namespace ZepGpu
namespace Queue

open Foundation Rooms
open Foundation.Json (Value Floats Equal distinctKeys)

/-!
# Results that nobody can retrieve

The worker writes to a store that is not initialised, so that a task with a result
raises where it should be completed; and the API reads from such a store, so that it
gives no result of any task.
-/

section Results

variable {F : Type} {floats : Floats F} {stack : Nat} {base64 : Base64} {operations : Operations F}
  {taskId : Uuid} {tables : ResultTables} {value : Value F}

/-- The operation of the task returns the value. -/
def Returns (floats : Floats F) (operations : Operations F) (payload : StoredPayload)
    (value : Value F) : Prop :=
  ∃ operation args kwargs,
    SafeTask.loadTaskPayload floats payload.funcName payload.serializedFunc payload.args
      payload.kwargs = .ok (operation, args, kwargs) ∧
    operations operation args kwargs = .returned (some value)

theorem attemptTask_raises {key : String} {payload : StoredPayload} {backends : Backends}
    {data : Bytes} (returns : Returns floats operations payload value)
    (encoded : SafeTask.encodeTaskResult floats stack value = .ok data) :
    attemptTask floats stack base64 operations key payload backends = (.raised "", backends) := by
  rcases returns with ⟨operation, args, kwargs, loaded, returned⟩
  unfold attemptTask
  rw [loaded]
  dsimp only
  rw [returned]
  dsimp only
  unfold storeOutcome
  rw [encoded]
  rfl

theorem executeTask_not_success {data : Bytes}
    (returns : Returns floats operations (tables.payloads taskId) value)
    (encoded : SafeTask.encodeTaskResult floats stack value = .ok data) (clock : Nat -> Time)
    (gpu : Option Int) :
    (executeTask floats stack base64 operations taskId clock tables).result ≠
      .ok (.success gpu) := by
  intro succeeded
  unfold executeTask at succeeded
  rw [attemptTask_raises returns encoded] at succeeded
  rcases transaction_result_eq_ok.mp succeeded with ⟨written, run⟩
  have prepared := tables.store.prepare_cases taskId clock
  unfold TaskStore.executeBody at run
  revert run prepared
  generalize tables.store.prepare taskId clock = result
  intro run prepared
  cases prepared with
  | notFound missing => cases run
  | deferred found waits => cases run
  | noGpu found due lacks rows written failed => cases run
  | goes found due obtains rows => cases run

theorem readReferenced_raises {presign : String -> Option String} {key reference : String}
    {backends : Backends} :
    readReferenced floats base64 presign key reference backends = .error (.raised .assertion) :=
  rfl

theorem getTaskResult_result {presign : String -> Option String} {userId : Uuid}
    {response : TaskResultResponse F}
    (answered : getTaskResult floats base64 presign taskId userId tables = .ok response) :
    response.result = none := by
  unfold getTaskResult at answered
  split at answered
  · cases answered
  · rcases raiseIf_bind_eq_ok.mp answered with ⟨-, answered⟩
    split at answered
    · rw [← Except.ok.inj answered]
    · rw [← Except.ok.inj answered]
    · rcases bind_eq_ok.mp answered with ⟨_, read, -⟩
      rw [readReferenced_raises] at read
      cases read

/-- The result of a task is stored, and the route hands it to the owner. -/
structure Retrievable (floats : Floats F) (stack : Nat) (base64 : Base64) (operations : Operations F)
    (presign : String -> Option String) (tables : ResultTables) (taskId owner : Uuid)
    (clock : Nat -> Time) (value : Value F) : Prop where
  completed : ∃ gpu,
    (executeTask floats stack base64 operations taskId clock tables).result = .ok (.success gpu)
  retrieved : ∃ response,
    getTaskResult floats base64 presign taskId owner
      (executeTask floats stack base64 operations taskId clock tables).state = .ok response ∧
    ∃ stored, response.result = some stored ∧ Equal value stored

end Results

/-- No task with a result is completed by its execution; and of no task whatever,
completed or not, does anybody get a value. -/
theorem result_never_retrievable {F : Type} (floats : Floats F) (stack : Nat) (base64 : Base64)
    (operations : Operations F) (presign : String -> Option String) (tables : ResultTables)
    (taskId owner : Uuid) (clock : Nat -> Time) (value : Value F) (data : Bytes)
    (returns : Returns floats operations (tables.payloads taskId) value)
    (encoded : SafeTask.encodeTaskResult floats stack value = .ok data) :
    ¬ Retrievable floats stack base64 operations presign tables taskId owner clock value ∧
      ∀ (later : ResultTables) (response : TaskResultResponse F),
        getTaskResult floats base64 presign taskId owner later = .ok response ->
          response.result = none := by
  constructor
  · rintro ⟨⟨gpu, succeeded⟩, -⟩
    exact executeTask_not_success returns encoded clock gpu succeeded
  · intro later response answered
    exact getTaskResult_result answered

namespace SquareRoot

open Vpn.PeerMessages.Sample (wholeFloats)

/-- Two digits for a byte, in place of base64. -/
def hexBase : Base64 where
  encode := hexText
  decode := fun text => fromHex? text.toList

def payload : StoredPayload where
  funcName := some "math.sqrt"
  args := some (utf8 "[4]")
  kwargs := some (utf8 "{}")

def operations : Operations Int :=
  fun _ _ _ => .returned (some (.float 2))

def tables : ResultTables where
  store :=
    { rooms := Sample.idleRoom.setTask Sample.taskId { userId := some Sample.userId }
      columns := fun _ => {}
      gpus := Dict.empty }
  payloads := fun _ => payload
  backends := ⟨fun _ => none, fun _ => none⟩

theorem loaded : (SafeTask.loadTaskPayload wholeFloats payload.funcName payload.serializedFunc
    payload.args payload.kwargs).toOption.isSome = true := by
  decide +kernel

theorem returns_two : Returns wholeFloats operations payload (.float 2) := by
  rcases Option.isSome_iff_exists.mp loaded with ⟨⟨operation, args, kwargs⟩, found⟩
  exact ⟨operation, args, kwargs, ok_of_toOption found, rfl⟩

theorem encoded_two : (SafeTask.encodeTaskResult wholeFloats 1000 (.float 2)).toOption.isSome =
    true := by
  decide +kernel

end SquareRoot

open SquareRoot Vpn.PeerMessages.Sample in
/-- The task returns 2.0, which is encoded but not stored. -/
theorem squareRoot_never_retrievable :
    ¬ Retrievable wholeFloats 1000 hexBase operations (fun _ => none) tables Sample.taskId
      Sample.userId (fun _ => 0) (.float 2) := by
  rcases Option.isSome_iff_exists.mp encoded_two with ⟨data, encoded⟩
  exact (result_never_retrievable wholeFloats 1000 hexBase operations (fun _ => none) tables
    Sample.taskId Sample.userId (fun _ => 0) (.float 2) data returns_two
    (ok_of_toOption encoded)).1

open SquareRoot Vpn.PeerMessages.Sample in
/-- A result that can be encoded is lost all the same. -/
theorem completed_result_lost :
    ¬ ∀ (F : Type) (floats : Floats F) (stack : Nat) (base64 : Base64)
      (operations : Operations F) (presign : String -> Option String) (tables : ResultTables)
      (taskId owner : Uuid) (clock : Nat -> Time) (value : Value F) (task : Task) (data : Bytes),
      tables.store.rooms.tasks.get? taskId = some task -> task.dispatchMode = "local" ->
      task.userId = some owner -> Returns floats operations (tables.payloads taskId) value ->
      SafeTask.encodeTaskResult floats stack value = .ok data ->
      Retrievable floats stack base64 operations presign tables taskId owner clock value := by
  intro retrievable
  rcases Option.isSome_iff_exists.mp encoded_two with ⟨data, encoded⟩
  have retrieved := retrievable Int wholeFloats 1000 hexBase operations (fun _ => none) tables
    Sample.taskId Sample.userId (fun _ => 0) (.float 2) { userId := some Sample.userId } data
    Dict.get?_set_self rfl rfl returns_two (ok_of_toOption encoded)
  rcases retrieved.completed with ⟨gpu, succeeded⟩
  exact executeTask_not_success returns_two (ok_of_toOption encoded) (fun _ => 0) gpu succeeded

end Queue
end ZepGpu
