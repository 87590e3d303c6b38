import Mathlib.Data.String.Basic
import ZepGpu.Foundation.FailureAtomicity
import ZepGpu.Foundation.Rows
import ZepGpu.Training.NamedArrays

namespace ZepGpu
namespace Training
namespace Compression

open Foundation FixedCodec

/-!
# The native compressor of updates

A tensor is cut into chunks, which are transformed; of every chunk the largest
coefficients are kept and quantized together.  The sender inverts what it is
about to write and keeps what the inverse misses, as the residual that it adds
to the next update of the same name.

The decoder finds every section by its length, computed from a record of
numbers in front of it.  The number of rows is not written: the encoder gets
it from the padded signal, the decoder from the size of the tensor.

The numeric kernels are parameters.  Of their results the code uses the shapes,
that the indices of a partition are the places of a row, and that the levels
lie between the bounds of `np.clip`.
-/

/-- `CompressionConfig` -/
structure CompressionConfig where
  topK : Nat := 32
  chunkSize : Nat := 64
  quantBits : Nat := 4
  errorFeedback : Bool := true
  topK_bounds : 1 ≤ topK ∧ topK ≤ 65536 := by decide
  chunkSize_bounds : 8 ≤ chunkSize ∧ chunkSize ≤ 4096 := by decide
  quantBits_bounds : 2 ≤ quantBits ∧ quantBits ≤ 8 := by decide

/-- What `_quantize` returns: the levels, with the least value and the step. -/
structure Quantized (Double : Type) where
  levels : List (List Int)
  vmin : Double
  scale : Double

/-- The kernels of the codec, and the conversions between Python's numbers and
`float32`. -/
structure Kernels where
  /-- `np.float32`.  Numbers that compare equal are one, and so are the NaNs. -/
  Number : Type
  /-- `float` -/
  Double : Type
  zero : Number
  add : Number -> Number -> Number
  sub : Number -> Number -> Number
  abs : Number -> Number
  /-- `_dct_1d` on one row -/
  dct1d : List Number -> List Number
  /-- `_idct_1d` on one row -/
  idct1d : List Number -> List Number
  /-- `np.argpartition(row, -k)` -/
  argpartition : List Number -> Nat -> List Nat
  /-- `_quantize` -/
  quantize : List (List Number) -> Nat -> Quantized Double
  /-- `_dequantize` of one level, on the rounded `vmin` and `scale` -/
  dequantize : Int -> Number -> Number -> Number
  /-- `np.float32(value)` -/
  float32 : Double -> Number
  /-- `struct.pack("!f", value)` -/
  packFloat : Double -> Except TrainingError Bytes
  /-- `struct.unpack("!f", data)` -/
  unpackFloat : Bytes -> Double
  /-- One of the quotients `(values - vmin) / scale` of `_quantize` is a NaN. -/
  quotientIsNan : List (List Number) -> Nat -> Prop
  length_dct1d : ∀ row, (dct1d row).length = row.length
  length_idct1d : ∀ row, (idct1d row).length = row.length
  argpartition_perm : ∀ row k, 1 ≤ k -> k ≤ row.length ->
    (argpartition row k).Perm (List.range row.length)
  quantize_shape : ∀ values bits, 2 ≤ bits ->
    (quantize values bits).levels.map List.length = values.map List.length
  /-- `np.clip(..., 0, levels)`, which lets a NaN pass -/
  quantize_clip : ∀ values bits, 2 ≤ bits -> ¬ quotientIsNan values bits ->
    ∀ row, row ∈ (quantize values bits).levels -> ∀ level, level ∈ row ->
      0 ≤ level ∧ level < 2 ^ bits
  /-- The least value is a `float32`, and the step is less than a third of their range. -/
  packFloat_quantize : ∀ values bits, 2 ≤ bits ->
    (∃ data, packFloat (quantize values bits).vmin = .ok data) ∧
      ∃ data, packFloat (quantize values bits).scale = .ok data
  length_packFloat : ∀ value data, packFloat value = .ok data -> data.length = 4
  /-- Both roundings to `float32` are the same. -/
  float32_unpackFloat : ∀ value data, packFloat value = .ok data ->
    float32 (unpackFloat data) = float32 value

section Codec

variable (K : Kernels) (config : CompressionConfig)

/-- `CompressorState` -/
structure CompressorState where
  residuals : Dict String (List K.Number) := Dict.empty

/-- `np.zeros(size)` -/
def Kernels.zeros (size : Nat) : List K.Number :=
  List.replicate size K.zero

/-- A binary operation of NumPy on one-dimensional arrays. -/
def elementwise {α : Type} (combine : α -> α -> α) (left right : List α) :
    Except TrainingError (List α) :=
  match broadcast combine left right with
  | some values => .ok values
  | none => .error (.valueError "operands could not be broadcast together")

/-- What was computed along an axis, or NumPy's exception for a bad index. -/
def alongAxis {α : Type} (result : Option α) : Except TrainingError α :=
  match result with
  | some value => .ok value
  | none => .error .indexError

/-! ## Encoding -/

/-- The new values and what the sender kept back of the last update. -/
def signalOf (residual : Option (List K.Number)) (flat : List K.Number) :
    Except TrainingError (List K.Number) :=
  let residual :=
    match residual with
    | some residual => if config.errorFeedback then residual else K.zeros flat.length
    | none => K.zeros flat.length
  elementwise K.add residual flat

def padded (signal : List K.Number) : List K.Number :=
  let pad := ((-(signal.length : Int)) % config.chunkSize).toNat
  signal ++ K.zeros pad

/-- The coefficients that are kept, by row. -/
structure Selection where
  transformed : List (List K.Number)
  indices : List (List Nat)
  values : List (List K.Number)

/-- `min(self.config.top_k, chunk)` -/
def CompressionConfig.kept : Nat :=
  min config.topK config.chunkSize

def select (signal : List K.Number) : Except TrainingError (Selection K) := do
  let chunks := rowsOf config.chunkSize (signal.length / config.chunkSize) signal
  let transformed := chunks.map K.dct1d
  let indices := transformed.map fun row =>
    let order := K.argpartition (row.map K.abs) config.kept
    order.drop (order.length - config.kept)
  let values ← alongAxis (takeAlongAxis transformed indices)
  .ok ⟨transformed, indices, values⟩

/-- The levels put back at their places in a matrix of zeros, and transformed
back.  Both sides do this. -/
def inverse (blank : List (List K.Number)) (indices : List (List Nat)) (levels : List (List Int))
    (vmin scale : K.Number) : Except TrainingError (List K.Number) := do
  let values := levels.map fun row => row.map fun level => K.dequantize level vmin scale
  let freq ← alongAxis (putAlongAxis blank indices values)
  .ok (freq.map K.idct1d).flatten

/-- What `compress` computes of one tensor: the coefficients it writes, the
values that these stand for, and what is kept back for the next update. -/
structure Coded where
  values : List (List K.Number)
  indices : List (List Nat)
  quantized : Quantized K.Double
  recon : List K.Number
  residual : List K.Number

/-- What goes to `state.residuals[name]`. -/
def keptBack (signal recon : List K.Number) (size : Nat) : Except TrainingError (List K.Number) :=
  if config.errorFeedback then elementwise K.sub (signal.take size) recon
  else .ok (K.zeros size)

def code (residual : Option (List K.Number)) (flat : List K.Number) :
    Except TrainingError (Coded K) := do
  let signal ← signalOf K config residual flat
  let signal := padded K config signal
  let selected ← select K config signal
  let quantized := K.quantize selected.values config.quantBits
  let blank := selected.transformed.map fun row => row.map fun _ => K.zero
  let whole ← inverse K blank selected.indices quantized.levels (K.float32 quantized.vmin)
    (K.float32 quantized.scale)
  let recon := whole.take flat.length
  let residual ← keptBack K config signal recon flat.length
  .ok ⟨selected.values, selected.indices, quantized, recon, residual⟩

/-- `_ONE` -/
def tensorRecord : FixedCodec (Nat × Nat × Nat × Nat × Int × Nat) :=
  (unsigned 2).pair ((unsigned 2).pair ((unsigned 4).pair
    ((unsigned 4).pair ((signed 1).pair (unsigned 4)))))

/-- `struct.Struct("!ffI")`, with the floats as bytes -/
def numbersRecord : FixedCodec (Bytes × Bytes × Nat) :=
  (FixedCodec.raw 4).pair ((FixedCodec.raw 4).pair (unsigned 4))

/-- `np.uint16` in memory, on a little-endian machine -/
def uint16 : FixedCodec Nat :=
  (unsigned 2).reversed

/-- `np.uint8` -/
def uint8 : FixedCodec Nat :=
  unsigned 1

/-- `np.asarray(values, dtype).tobytes(order="C")`, where a number that does
not fit the type is reduced -/
def castBytes (codec : FixedCodec Nat) (values : List (List Int)) : Bytes :=
  codec.encodeMany (values.flatten.map fun value : Int => (value % (256 ^ codec.width : Nat)).toNat)

def integers (indices : List (List Nat)) : List (List Int) :=
  indices.map fun row => row.map fun index : Nat => (index : Int)

/-- The parts that `compress` writes for one tensor. -/
def packTensor (name : String) (array : NdArray K.Number) (coded : Coded K) :
    Except TrainingError Bytes := do
  let lengths ← pack tensorRecord ((utf8 name).length, array.shape.length, config.kept,
    config.chunkSize, config.quantBits, if config.errorFeedback then 1 else 0)
  let dims ← packDimensions (dimsOf array.shape)
  let vmin ← K.packFloat coded.quantized.vmin
  let scale ← K.packFloat coded.quantized.scale
  let numbers ← pack numbersRecord (vmin, scale, array.values.length)
  let levels :=
    if config.quantBits ≤ 8 then castBytes uint8 coded.quantized.levels
    else castBytes uint16 coded.quantized.levels
  .ok (lengths ++ (utf8 name ++ (dims ++ (numbers ++
    (castBytes uint16 (integers coded.indices) ++ levels)))))

/-- One turn of the loop of `compress`.  The residual is stored before the
parts are packed. -/
def compressTensor (name : String) (array : NdArray K.Number) (state : CompressorState K) :
    Outcome (CompressorState K) TrainingError Bytes :=
  Outcome.andThen ⟨code K config (state.residuals.get? name) array.values, state⟩
    fun coded state =>
      ⟨packTensor K config name array coded, ⟨state.residuals.set name coded.residual⟩⟩

def compressAll : List (String × NdArray K.Number) -> CompressorState K ->
    Outcome (CompressorState K) TrainingError (List Bytes)
  | [], state => ⟨.ok [], state⟩
  | (name, array) :: rest, state =>
    (compressTensor K config name array state).andThen fun first state =>
      (compressAll rest state).andThen fun others state => ⟨.ok (first :: others), state⟩

def codecZep : String := "zep-v1"

def CompressionConfig.knobs : Dict String Json :=
  Dict.empty.setAll [("backend", .str "zep"), ("top_k", .int config.topK),
    ("chunk_size", .int config.chunkSize), ("quant_bits", .int config.quantBits),
    ("error_feedback", .bool config.errorFeedback)]

def compress (tensors : Dict String (NdArray K.Number)) (state : CompressorState K) :
    Outcome (CompressorState K) TrainingError CompressedUpdate :=
  let items := tensors.entriesOf tensors.sortedKeys
  Outcome.andThen ⟨pack headerCount tensors.keys.length, state⟩ fun count state =>
    (compressAll K config items state).andThen fun parts state =>
      ⟨.ok {
        codec := codecZep
        payload := count ++ parts.flatten
        shapes := items.map fun item => item.2.shape
        dtypes := items.map fun _ => "float32"
        names := tensors.sortedKeys
        uncompressedBytes := (items.map fun item => 4 * item.2.values.length).sum
        compressedBytes := (count ++ parts.flatten).length
        metadata := config.knobs
      }, state⟩

/-! ## Decoding -/

open Reader

/-- `np.frombuffer(raw, dtype).reshape(rows, columns)` -/
def matrixOf (codec : FixedCodec Nat) (rows columns : Nat) (raw : Bytes) :
    Except TrainingError (List (List Nat)) := do
  let values ← frombuffer codec raw
  if values.length = rows * columns then .ok (rowsOf columns rows values)
  else .error (.valueError "cannot reshape array")

def readLevels (bits : Int) (rows columns : Nat) : Reader TrainingError (List (List Nat)) :=
  if bits ≤ 8 then do
    let raw ← slice (rows * columns)
    lift (matrixOf uint8 rows columns raw)
  else do
    let raw ← slice (rows * columns * 2)
    lift (matrixOf uint16 rows columns raw)

/-- One turn of the loop of `decompress`. -/
def readTensor : Reader TrainingError (String × NdArray K.Number) := do
  let (nameLength, ndim, topK, chunk, bits, _) ← unpack .structError tensorRecord
  let name ← slice nameLength
  let name ← lift (decodeUtf8 name)
  let shape ← unpackMany .structError dimensionCodec ndim
  let (vmin, scale, originalSize) ← unpack .structError numbersRecord
  lift (raiseIf (chunk = 0) .zeroDivisionError)
  let rows := (originalSize + chunk - 1) / chunk
  let raw ← slice (rows * topK * 2)
  let indices ← lift (matrixOf uint16 rows topK raw)
  let levels ← readLevels bits rows topK
  let blank := List.replicate rows (K.zeros chunk)
  let whole ← lift (inverse K blank indices (integers levels) (K.float32 (K.unpackFloat vmin))
    (K.float32 (K.unpackFloat scale)))
  let array ← lift (reshape (whole.take originalSize) shape)
  pure (name, array)

def readTensors : Reader TrainingError (Dict String (NdArray K.Number)) := do
  let count ← unpack .structError headerCount
  entries (readTensor K) count Dict.empty

def decompress (update : CompressedUpdate) :
    Except TrainingError (Dict String (NdArray K.Number)) := do
  raiseIf (update.codec ≠ codecZep)
    (.valueError ("expected codec " ++ codecZep ++ ", got " ++ update.codec))
  let (tensors, _) ← readTensors K update.payload
  .ok tensors

end Codec

end Compression
end Training
end ZepGpu
