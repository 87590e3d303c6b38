import Mathlib.Data.String.Basic
import ZepGpu.Foundation.Dict
import ZepGpu.Training.Platform

namespace ZepGpu
namespace Training

open Foundation Dict List

/-!
# Tensors and the outer optimizer

Arrays of 32-bit floating numbers are taken from NumPy, with the shapes of the
results of its operations and the exact way back from a list of numbers.
Nothing is assumed of the numbers themselves.

The outer optimizer mutates its moments while it goes through the parameters.
When an operation fails, what was written before stays written; this never
happens when the moments have the shapes of the parameters.
-/

/-- Arrays of `float32` and numbers of `float`.  Every operation below returns
`float32` on such arrays, so that a conversion to `float32` does nothing. -/
structure Numpy where
  Scalar : Type
  Array : Type
  shape : Array -> List Nat
  nbytes : Array -> Nat
  zerosLike : Array -> Array
  square : Array -> Array
  sqrt : Array -> Array
  scale : Scalar -> Array -> Array
  addScalar : Array -> Scalar -> Array
  divideScalar : Array -> Scalar -> Array
  add : Array -> Array -> Except TrainingError Array
  divide : Array -> Array -> Except TrainingError Array
  /-- `np.mean(np.stack(items, axis=0), axis=0)` -/
  meanOfStack : List Array -> Except TrainingError Array
  /-- `1 - x` -/
  oneMinus : Scalar -> Scalar
  power : Scalar -> Int -> Scalar
  arrayEqual : Array -> Array -> Bool
  /-- `array.reshape(-1).tolist()` -/
  tolist : Array -> List Json
  /-- `np.asarray(values, dtype=np.float32).reshape(shape)` -/
  reshaped : Json -> Json -> Except TrainingError Array
  shape_zerosLike : ∀ array, shape (zerosLike array) = shape array
  shape_square : ∀ array, shape (square array) = shape array
  shape_sqrt : ∀ array, shape (sqrt array) = shape array
  shape_scale : ∀ scalar array, shape (scale scalar array) = shape array
  shape_addScalar : ∀ array scalar, shape (addScalar array scalar) = shape array
  shape_divideScalar : ∀ array scalar, shape (divideScalar array scalar) = shape array
  shape_add : ∀ left right, shape left = shape right ->
    ∃ result, add left right = .ok result ∧ shape result = shape left
  shape_divide : ∀ left right, shape left = shape right ->
    ∃ result, divide left right = .ok result ∧ shape result = shape left
  shape_meanOfStack : ∀ dims items, items ≠ [] ->
    (∀ item, item ∈ items -> shape item = dims) ->
    ∃ result, meanOfStack items = .ok result ∧ shape result = dims
  reshaped_tolist : ∀ array,
    reshaped (.arr (tolist array)) (.arr ((shape array).map (fun dim : Nat => .int dim))) = .ok array

abbrev Tensors (N : Numpy) : Type := Dict String N.Array

section Tensors

variable {N : Numpy}

/-- `values[name]` -/
def lookup {α : Type} (values : Dict String α) (name : String) : Except TrainingError α :=
  match values.get? name with
  | some value => .ok value
  | none => .error (.keyError name)

variable {left right : Tensors N} {name : String}

theorem lookup_eq_ok {α : Type} {values : Dict String α} {value : α} :
    lookup values name = .ok value ↔ values.get? name = some value := by
  rw [lookup]
  cases values.get? name with
  | none => simp
  | some other => simp

/-! ## Shapes -/

/-- `str(shape)` for a tuple -/
def shapeText : List Nat -> String
  | [] => "()"
  | [dim] => "(" ++ toString dim ++ ",)"
  | dims => "(" ++ String.intercalate ", " (dims.map toString) ++ ")"

def Matching (local_ peer : Tensors N) : Prop :=
  ∀ name, (local_.get? name).map N.shape = (peer.get? name).map N.shape

def validateMatchingShapes (local_ peer : Tensors N) : Except TrainingError Unit := do
  raiseIf (¬ ((∀ name, name ∈ local_.keys -> name ∈ peer.keys) ∧
      ∀ name, name ∈ peer.keys -> name ∈ local_.keys))
    (.shapeMismatchError "adapter delta keys do not match between workers")
  match local_.keys.find? (fun name =>
      (local_.get? name).map N.shape ≠ (peer.get? name).map N.shape) with
  | none => .ok ()
  | some name =>
    .error (.shapeMismatchError ("shape mismatch for " ++ name ++ ": " ++
      shapeText (((local_.get? name).map N.shape).getD []) ++ " vs " ++
      shapeText (((peer.get? name).map N.shape).getD [])))

theorem Matching.symm (same : Matching left right) : Matching right left :=
  fun name => (same name).symm

theorem Matching.mem_keys (same : Matching left right) : name ∈ left.keys ↔ name ∈ right.keys := by
  rw [left.mem_keys, right.mem_keys, ← Option.isSome_map (f := N.shape),
    ← Option.isSome_map (f := N.shape) (x := right.get? name), same name]

theorem Matching.get? (same : Matching left right) {array : N.Array}
    (found : left.get? name = some array) :
    ∃ other, right.get? name = some other ∧ N.shape other = N.shape array := by
  have shapes := same name
  rw [found, Option.map_some, eq_comm, Option.map_eq_some_iff] at shapes
  exact shapes

theorem validateMatchingShapes_eq_ok :
    validateMatchingShapes left right = .ok () ↔ Matching left right := by
  rw [validateMatchingShapes, raiseIf_bind_eq_ok, not_not]
  constructor
  · rintro ⟨⟨_, back⟩, passed⟩ name
    split at passed
    · rename_i none
      by_cases member : name ∈ left.keys
      · have equal := find?_eq_none.mp none name member
        simpa using equal
      · have absent : name ∉ right.keys := fun other => member (back name other)
        rw [get?_eq_none_iff.mpr member, get?_eq_none_iff.mpr absent]
    · cases passed
  · intro same
    refine ⟨⟨fun name => same.mem_keys.mp, fun name => same.mem_keys.mpr⟩, ?_⟩
    have none : left.keys.find? (fun name =>
        (left.get? name).map N.shape ≠ (right.get? name).map N.shape) = none := by
      rw [find?_eq_none]
      intro name _
      simp [same name]
    rw [none]

/-! ## JSON -/

def arrayToJson (array : N.Array) : Json :=
  .obj [("dtype", .str "float32"), ("shape", .arr ((N.shape array).map (fun dim : Nat => .int dim))),
    ("values", .arr (N.tolist array))]

def arraysToJson (values : Tensors N) : Json :=
  .obj (values.sortedKeys.filterMap (fun name =>
    (values.get? name).map (fun array => (name, arrayToJson array))))

/-- `payload[key]` -/
def item (payload : Json) (key : String) : Except TrainingError Json :=
  match payload with
  | .obj _ =>
    match payload.get? key with
    | some value => .ok value
    | none => .error (.keyError key)
  | _ => .error (.typeError "indices must be integers or slices")

def arrayOfJson (N : Numpy) (payload : Json) : Except TrainingError N.Array := do
  let values ← item payload "values"
  let shape ← item payload "shape"
  N.reshaped values shape

def arraysFromJson (N : Numpy) : Json -> Except TrainingError (Tensors N)
  | .obj fields =>
    Dict.build (fun name => item (.obj fields) name >>= arrayOfJson N)
      ((fields.map Prod.fst).insertionSort (· ≤ ·))
  | _ => .error (.attributeError "items")

theorem arrayOfJson_arrayToJson (array : N.Array) : arrayOfJson N (arrayToJson array) = .ok array :=
  N.reshaped_tolist array

theorem get?_obj_filterMap {α : Type} {names : List String} {find : String -> Option α}
    {make : α -> Json} {value : α} (member : name ∈ names) (found : find name = some value) :
    (Json.obj (names.filterMap (fun name => (find name).map (fun value => (name, make value))))).get?
      name = some (make value) := by
  induction names with
  | nil => cases member
  | cons head rest ih =>
    rw [Json.get?, filterMap_cons]
    rcases eq_or_ne name head with rfl | different
    · rw [found]
      simp
    · have later := ih ((mem_cons.mp member).resolve_left different)
      rw [Json.get?] at later
      cases find head with
      | none => exact later
      | some other =>
        simp only [Option.map_some]
        rw [find?_cons_of_neg (by simpa using different.symm)]
        exact later

theorem keys_arraysToJson (values : Tensors N) :
    ((values.sortedKeys.filterMap (fun name =>
      (values.get? name).map (fun array => (name, arrayToJson array)))).map Prod.fst) =
      values.sortedKeys := by
  have all : ∀ names : List String, (∀ name, name ∈ names -> name ∈ values.keys) ->
      ((names.filterMap (fun name =>
        (values.get? name).map (fun array => (name, arrayToJson array)))).map Prod.fst) = names := by
    intro names inside
    induction names with
    | nil => rfl
    | cons head rest ih =>
      obtain ⟨array, found⟩ := exists_get?_of_mem (inside head mem_cons_self)
      simp only [filterMap_cons, found, Option.map_some, map_cons]
      rw [ih (fun name member => inside name (mem_cons_of_mem _ member))]
  exact all _ (fun name => mem_sortedKeys.mp)

theorem arraysFromJson_arraysToJson (values : Tensors N) :
    ∃ copy, arraysFromJson N (arraysToJson values) = .ok copy ∧
      ∀ name, copy.get? name = values.get? name := by
  rw [arraysToJson, arraysFromJson, keys_arraysToJson]
  have readBack : ∀ name array, values.get? name = some array ->
      (item (.obj (values.sortedKeys.filterMap (fun name =>
        (values.get? name).map (fun array => (name, arrayToJson array))))) name >>=
          arrayOfJson N) = .ok array := by
    intro name array found
    have entry : (arraysToJson values).get? name = some (arrayToJson array) :=
      get?_obj_filterMap (mem_sortedKeys.mpr (mem_keys_of_get? found)) found
    rw [arraysToJson] at entry
    refine bind_eq_ok.mpr ⟨arrayToJson array, ?_, arrayOfJson_arrayToJson array⟩
    rw [item]
    simp only [entry]
  have names : ∀ name, name ∈ values.sortedKeys.insertionSort (· ≤ ·) ↔ name ∈ values.keys := by
    intro name
    rw [mem_insertionSort, mem_sortedKeys]
  obtain ⟨copy, built⟩ := build_of_ok (fun name member => by
    obtain ⟨array, found⟩ := exists_get?_of_mem ((names name).mp member)
    exact ⟨array, readBack name array found⟩)
  refine ⟨copy, built, fun name => ?_⟩
  obtain ⟨inside, outside⟩ := get?_build built
  cases found : values.get? name with
  | none =>
    apply outside
    rw [names]
    exact get?_eq_none_iff.mp found
  | some array =>
    obtain ⟨other, read, same⟩ := inside name ((names name).mpr (mem_keys_of_get? found))
    rw [readBack name array found] at read
    rw [same, Except.ok.inj read]

end Tensors

end Training
end ZepGpu
