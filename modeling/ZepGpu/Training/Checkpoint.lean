import ZepGpu.Training.Platform

namespace ZepGpu
namespace Training

open Foundation

/-!
# Checkpoints of the outer state

A checkpoint carries the tensors and the optimizer as JSON.  Whatever goes to
the database or to a log passes through `filterSecrets`, which looks at the
keys of nested objects only.
-/

def secretParts : List String :=
  ["secret", "token", "password", "private_key", "credential", "api_key"]

/-- The lower-case form, as far as it can be a letter of a part above: those
are ASCII letters, and besides their capitals only the Kelvin sign has one of
them as its lower-case form. -/
def lowerChar (c : Char) : Char :=
  if c.toNat = 0x212a then 'k' else c.toLower

def isSecretKey (key : String) : Bool :=
  secretParts.any (fun part => occursIn part.toList (key.toList.map lowerChar))

mutual

def filterSecrets : Json -> Json
  | .obj fields => .obj (filterSecretFields fields)
  | .arr items => .arr (filterSecretItems items)
  | value => value

def filterSecretFields : List (String × Json) -> List (String × Json)
  | [] => []
  | (key, value) :: rest =>
    (key, if isSecretKey key then .str "[REDACTED]" else filterSecrets value) ::
      filterSecretFields rest

def filterSecretItems : List Json -> List Json
  | [] => []
  | value :: rest => filterSecrets value :: filterSecretItems rest

end

theorem get?_filterSecrets {fields : List (String × Json)} {key : String}
    (plain : isSecretKey key = false) :
    (filterSecrets (.obj fields)).get? key = ((Json.obj fields).get? key).map filterSecrets := by
  rw [filterSecrets, Json.get?, Json.get?]
  induction fields with
  | nil => rfl
  | cons field rest ih =>
    rw [filterSecretFields, List.find?_cons, List.find?_cons]
    by_cases same : field.1 = key
    · simp [same, plain]
    · simp only [same, decide_false]
      exact ih

theorem map_fst_filterSecretFields (fields : List (String × Json)) :
    (filterSecretFields fields).map Prod.fst = fields.map Prod.fst := by
  induction fields with
  | nil => rfl
  | cons field rest ih => rw [filterSecretFields, List.map_cons, List.map_cons, ih]

mutual

theorem keyed_filterSecrets : ∀ value : Json, value.keyed = true ->
    (filterSecrets value).keyed = true
  | .null, _ | .bool _, _ | .int _, _ | .float _, _ | .str _, _ => by simp [filterSecrets, Json.keyed]
  | .arr items, keyed => by
      rw [Json.keyed] at keyed
      rw [filterSecrets, Json.keyed]
      exact keyed_filterSecretItems items keyed
  | .obj fields, keyed => by
      rw [Json.keyed, Bool.and_eq_true] at keyed
      rw [filterSecrets, Json.keyed, Bool.and_eq_true, map_fst_filterSecretFields]
      exact ⟨keyed.1, keyed_filterSecretFields fields keyed.2⟩

theorem keyed_filterSecretItems : ∀ items : List Json, Json.keyedItems items = true ->
    Json.keyedItems (filterSecretItems items) = true
  | [], _ => by rw [filterSecretItems, Json.keyedItems]
  | item :: rest, keyed => by
      rw [Json.keyedItems, Bool.and_eq_true] at keyed
      rw [filterSecretItems, Json.keyedItems, Bool.and_eq_true]
      exact ⟨keyed_filterSecrets item keyed.1, keyed_filterSecretItems rest keyed.2⟩

theorem keyed_filterSecretFields : ∀ fields : List (String × Json),
    Json.keyedFields fields = true -> Json.keyedFields (filterSecretFields fields) = true
  | [], _ => by rw [filterSecretFields, Json.keyedFields]
  | (key, value) :: rest, keyed => by
      rw [Json.keyedFields, Bool.and_eq_true] at keyed
      rw [filterSecretFields, Json.keyedFields, Bool.and_eq_true]
      refine ⟨?_, keyed_filterSecretFields rest keyed.2⟩
      split_ifs
      · simp [Json.keyed]
      · exact keyed_filterSecrets value keyed.1

end
/-- `Phase18CheckpointMetadata`, with the fields that a coordinator fills in. -/
structure Checkpoint where
  runId : String
  step : Int
  createdAt : Int
  config : Json
  outerRound : Int
  modelState : Json
  outerOptimizerState : Json
  activeMembership : List String
  compressionConfig : Json
  placement : Json
  islandIds : List String

end Training
end ZepGpu
