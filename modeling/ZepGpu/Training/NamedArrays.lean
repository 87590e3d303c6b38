import Mathlib.Algebra.BigOperators.Group.List.Lemmas
import Mathlib.Algebra.BigOperators.Ring.List
import ZepGpu.Foundation.Framing
import ZepGpu.Training.Envelope

namespace ZepGpu
namespace Training
namespace Compression

open Foundation Dict FixedCodec List

/-!
# Named arrays on the wire

An array of `float32` is its shape and its numbers in row-major order.  NumPy
bounds the number of dimensions and the room that the nonzero ones span, and
both bounds are part of the type, so that a shape that was written can always
be given to `reshape` again.

`pack_named_arrays` writes dense arrays under their names: a count, and for
every array a record of lengths, the name, the name of the type, the
dimensions and the bytes.
-/

/-- The shapes that NumPy gives to arrays of four-byte numbers. -/
def Admissible (shape : List Nat) : Prop :=
  shape.length ≤ 64 ∧ 4 * (shape.filter (· ≠ 0)).prod < 2 ^ 63

instance (shape : List Nat) : Decidable (Admissible shape) :=
  inferInstanceAs (Decidable (_ ∧ _))

/-- An array of `float32`.  `array.reshape(-1)` are its values. -/
structure NdArray (α : Type) where
  shape : List Nat
  values : List α
  length_values : values.length = shape.prod
  admissible : Admissible shape

/-- The dimensions that `reshape` gives to this many numbers.  One negative
dimension is inferred from the others. -/
def resolveShape (size : Nat) (shape : List Int) : Option (List Nat) :=
  match shape.filter (· < 0) with
  | [] => some (shape.map Int.toNat)
  | [_] =>
    let known := ((shape.filter (0 ≤ ·)).map Int.toNat).prod
    if known = 0 ∨ size % known ≠ 0 then none
    else some (shape.map fun dim => if dim < 0 then size / known else dim.toNat)
  | _ => none

/-- `values.reshape(shape)` -/
def reshape {α : Type} (values : List α) (shape : List Int) : Except TrainingError (NdArray α) :=
  match resolveShape values.length shape with
  | none => .error (.valueError "cannot reshape array")
  | some dims =>
    if fits : values.length = dims.prod ∧ Admissible dims then .ok ⟨dims, values, fits.1, fits.2⟩
    else .error (.valueError "cannot reshape array")

/-- `np.frombuffer(raw, dtype)` -/
def frombuffer {α : Type} (codec : FixedCodec α) (raw : Bytes) : Except TrainingError (List α) :=
  if raw.length % codec.width = 0 then
    .ok (decodeMany codec (raw.length / codec.width) raw)
  else .error (.valueError "buffer size must be a multiple of element size")

/-- `data.decode("utf-8")` -/
def decodeUtf8 (data : Bytes) : Except TrainingError String :=
  match ofUtf8? data with
  | some text => .ok text
  | none => .error .unicodeDecodeError

/-- The dimensions as `int(dim) for dim in array.shape`. -/
def dimsOf (shape : List Nat) : List Int :=
  shape.map fun dim : Nat => (dim : Int)

section Arrays

variable {α : Type}

theorem dim_lt {shape : List Nat} (admissible : Admissible shape) {dim : Nat} (member : dim ∈ shape) :
    dim < 2 ^ 61 := by
  rcases Nat.eq_zero_or_pos dim with rfl | positive
  · exact Nat.two_pow_pos 61
  · have inside : dim ∈ shape.filter (· ≠ 0) := by
      rw [mem_filter, decide_eq_true_iff]
      exact ⟨member, Nat.ne_of_gt positive⟩
    have nonzero : 0 < (shape.filter (· ≠ 0)).prod := by
      rw [Nat.pos_iff_ne_zero, Ne, prod_eq_zero_iff]
      intro zero
      simp at zero
    have bound := Nat.le_of_dvd nonzero (dvd_prod inside)
    have room := admissible.2
    omega

theorem fits_dimsOf {shape : List Nat} (admissible : Admissible shape) :
    ∀ dim, dim ∈ dimsOf shape -> dimensionCodec.fits dim := by
  intro dim member
  obtain ⟨natural, inside, rfl⟩ := mem_map.mp member
  have small := dim_lt admissible inside
  change -((256 ^ 8 : Nat) : Int) ≤ 2 * natural ∧ 2 * (natural : Int) < (256 ^ 8 : Nat)
  omega

theorem resolveShape_dimsOf {size : Nat} {shape : List Nat} :
    resolveShape size (dimsOf shape) = some shape := by
  have none : (dimsOf shape).filter (· < 0) = [] := by
    rw [filter_eq_nil_iff]
    intro dim member
    obtain ⟨natural, _, rfl⟩ := mem_map.mp member
    simp
  have same : (dimsOf shape).map Int.toNat = shape := by
    rw [dimsOf, map_map]
    exact map_id'' (fun _ => Int.toNat_natCast _) shape
  rw [resolveShape, none, same]

theorem reshape_shape (array : NdArray α) : reshape array.values (dimsOf array.shape) = .ok array := by
  rw [reshape, resolveShape_dimsOf]
  exact dif_pos ⟨array.length_values, array.admissible⟩

theorem frombuffer_encodeMany {codec : FixedCodec α} {values : List α} (wide : 0 < codec.width)
    (fits : ∀ value, value ∈ values -> codec.fits value) :
    frombuffer codec (encodeMany codec values) = .ok values := by
  have length := length_encodeMany fits
  rw [frombuffer, length, Nat.mul_mod_left, if_pos rfl, Nat.mul_div_cancel _ wide,
    decodeMany_encodeMany fits]

theorem decodeUtf8_utf8 (text : String) : decodeUtf8 (utf8 text) = .ok text := by
  rw [decodeUtf8, ofUtf8?_utf8]

end Arrays

/-- `CompressedUpdate` -/
structure CompressedUpdate where
  codec : String
  payload : Bytes
  shapes : List (List Nat)
  dtypes : List String
  names : List String
  uncompressedBytes : Nat
  compressedBytes : Nat
  metadata : Dict String Json := Dict.empty

/-- A `float32`, given by its bytes in memory. -/
abbrev Word : Type := { data : Bytes // data.length = 4 }

def wordCodec : FixedCodec Word :=
  FixedCodec.memory 4

/-- `_HEADER` -/
def headerCount : FixedCodec Nat :=
  unsigned 4

/-- `_TENSOR_META`, with the lengths of the name and of the type's name and
the number of dimensions. -/
def tensorMeta : FixedCodec (Nat × Nat × Nat) :=
  (unsigned 2).pair ((unsigned 2).pair (unsigned 4))

/-- `array.tobytes(order="C")` -/
def NdArray.tobytes (array : NdArray Word) : Bytes :=
  encodeMany wordCodec array.values

def packNamedArray (name : String) (array : NdArray Word) : Except TrainingError Bytes := do
  let lengths ← pack tensorMeta ((utf8 name).length, (utf8 "float32").length, array.shape.length)
  let dims ← packDimensions (dimsOf array.shape)
  let nbytes ← pack headerCount array.tobytes.length
  .ok (lengths ++ (utf8 name ++ (utf8 "float32" ++ (dims ++ (nbytes ++ array.tobytes)))))

/-- The loop of `pack_named_arrays` over `zip(names, arrays, strict=True)`. -/
def packZipped : List String -> List (NdArray Word) -> Except TrainingError (List Bytes)
  | [], [] => .ok []
  | name :: names, array :: arrays => do
      let first ← packNamedArray name array
      let others ← packZipped names arrays
      .ok (first :: others)
  | _ :: _, [] => .error (.valueError "zip() argument 2 is shorter than argument 1")
  | [], _ :: _ => .error (.valueError "zip() argument 2 is longer than argument 1")

def packNamedArrays (names : List String) (arrays : List (NdArray Word)) (codec : String)
    (metadata : Dict String Json := Dict.empty) : Except TrainingError CompressedUpdate := do
  let count ← pack headerCount arrays.length
  let parts ← packZipped names arrays
  .ok {
    codec := codec
    payload := count ++ parts.flatten
    shapes := arrays.map NdArray.shape
    dtypes := arrays.map fun _ => "float32"
    names := names
    uncompressedBytes := (arrays.map fun array => array.tobytes.length).sum
    compressedBytes := (count ++ parts.flatten).length
    metadata := metadata
  }

open Reader

/-- One turn of the loop of `unpack_named_arrays`. -/
def readNamedArray : Reader TrainingError (String × NdArray Word) := do
  let (nameLength, dtypeLength, ndim) ← unpack .structError tensorMeta
  let name ← slice nameLength
  let name ← lift (decodeUtf8 name)
  let dtype ← slice dtypeLength
  let dtype ← lift (decodeUtf8 dtype)
  let shape ← unpackMany .structError dimensionCodec ndim
  let nbytes ← unpack .structError headerCount
  let raw ← slice nbytes
  lift (raiseIf (dtype ≠ "float32") (.valueError ("unsupported packed dtype: " ++ dtype)))
  let values ← lift (frombuffer wordCodec raw)
  let array ← lift (reshape values shape)
  pure (name, array)

def readNamedArrays : Reader TrainingError (Dict String (NdArray Word)) := do
  let count ← unpack .structError headerCount
  entries readNamedArray count Dict.empty

def unpackNamedArrays (update : CompressedUpdate) :
    Except TrainingError (Dict String (NdArray Word)) := do
  let (arrays, _) ← readNamedArrays update.payload
  .ok arrays

theorem length_tobytes (array : NdArray Word) : array.tobytes.length = 4 * array.shape.prod := by
  rw [NdArray.tobytes, length_encodeMany fun _ _ => trivial, array.length_values, Nat.mul_comm]
  rfl

/-- The name and the shape are within the limits of the format. -/
def Packable (name : String) (array : NdArray Word) : Prop :=
  (utf8 name).length < 2 ^ 16 ∧ array.shape.prod < 2 ^ 30

theorem packNamedArray_reads {name : String} {array : NdArray Word} (packable : Packable name array) :
    ∃ bytes, packNamedArray name array = .ok bytes ∧ Reads readNamedArray bytes (name, array) := by
  have float32 : (utf8 "float32").length < 256 ^ 2 := by decide
  have lengths : tensorMeta.fits ((utf8 name).length, (utf8 "float32").length, array.shape.length) :=
    ⟨packable.1, float32, Nat.lt_of_le_of_lt array.admissible.1 (by decide)⟩
  have dims := fits_dimsOf array.admissible
  have nbytes : headerCount.fits array.tobytes.length := by
    have small := packable.2
    change array.tobytes.length < 256 ^ 4
    rw [length_tobytes]
    omega
  refine ⟨_, bind_eq_ok.mpr ⟨_, pack_eq_ok.mpr ⟨lengths, rfl⟩, bind_eq_ok.mpr ⟨_,
    packDimensions_eq_ok.mpr ⟨dims, rfl⟩, bind_eq_ok.mpr ⟨_, pack_eq_ok.mpr ⟨nbytes, rfl⟩, rfl⟩⟩⟩, ?_⟩
  apply Reads.bind (Reads.unpack lengths)
  apply Reads.bind (Reads.slice rfl)
  apply Reads.bind_lift (decodeUtf8_utf8 name)
  apply Reads.bind (Reads.slice rfl)
  apply Reads.bind_lift (decodeUtf8_utf8 "float32")
  have count : array.shape.length = (dimsOf array.shape).length := (length_map _).symm
  rw [count]
  apply Reads.bind (Reads.unpackMany dims)
  apply Reads.bind (Reads.unpack nbytes)
  apply Reads.bind_last (Reads.slice rfl)
  apply Reads.bind_lift (raiseIf_eq_ok.mpr fun different => different rfl : raiseIf _ _ = .ok ())
  apply Reads.bind_lift (frombuffer_encodeMany (by decide) fun _ _ => trivial)
  apply Reads.bind_lift (reshape_shape array)
  exact Reads.pure (name, array)

theorem packable_of_packNamedArray {name : String} {array : NdArray Word} {bytes : Bytes}
    (packed : packNamedArray name array = .ok bytes) : Packable name array := by
  rw [packNamedArray] at packed
  obtain ⟨_, lengths, packed⟩ := bind_eq_ok.mp packed
  obtain ⟨_, _, packed⟩ := bind_eq_ok.mp packed
  obtain ⟨_, nbytes, _⟩ := bind_eq_ok.mp packed
  have size : array.tobytes.length < 256 ^ 4 := (pack_eq_ok.mp nbytes).1
  rw [length_tobytes] at size
  refine ⟨(pack_eq_ok.mp lengths).1.1, ?_⟩
  omega

theorem packZipped_reads {entries : List (String × NdArray Word)}
    (packable : ∀ entry, entry ∈ entries -> Packable entry.1 entry.2) :
    ∃ parts, packZipped (entries.map Prod.fst) (entries.map Prod.snd) = .ok parts ∧
      List.Forall₂ (Reads readNamedArray) parts entries := by
  induction entries with
  | nil => exact ⟨[], rfl, List.Forall₂.nil⟩
  | cons entry rest ih =>
    obtain ⟨name, array⟩ := entry
    obtain ⟨first, packed, reads⟩ := packNamedArray_reads (packable _ mem_cons_self)
    obtain ⟨others, packedOthers, each⟩ := ih fun other member =>
      packable other (mem_cons_of_mem _ member)
    refine ⟨first :: others, ?_, List.Forall₂.cons reads each⟩
    exact bind_eq_ok.mpr ⟨first, packed, bind_eq_ok.mpr ⟨others, packedOthers, rfl⟩⟩

/-- `list(arrays.values())` -/
def valuesOf (arrays : Dict String (NdArray Word)) : List (NdArray Word) :=
  (arrays.entriesOf arrays.keys).map Prod.snd

theorem unpackNamedArrays_packNamedArrays {arrays : Dict String (NdArray Word)} {codec : String}
    {metadata : Dict String Json} (few : arrays.keys.length < 2 ^ 32)
    (packable : ∀ name array, arrays.get? name = some array -> Packable name array) :
    ∃ update, packNamedArrays arrays.keys (valuesOf arrays) codec metadata = .ok update ∧
      unpackNamedArrays update = .ok arrays := by
  have names : (arrays.entriesOf arrays.keys).map Prod.fst = arrays.keys :=
    map_fst_entriesOf fun _ member => member
  have length : (arrays.entriesOf arrays.keys).length = arrays.keys.length := by
    rw [← length_map Prod.fst, names]
  have fitting : ∀ entry, entry ∈ arrays.entriesOf arrays.keys -> Packable entry.1 entry.2 :=
    fun entry member => packable entry.1 entry.2 (mem_entriesOf.mp member).2
  obtain ⟨parts, packed, each⟩ := packZipped_reads fitting
  rw [names] at packed
  have fits : headerCount.fits (arrays.entriesOf arrays.keys).length := by
    change _ < 256 ^ 4
    rw [length]
    exact few
  have count : pack headerCount (valuesOf arrays).length =
      .ok (headerCount.encode (arrays.entriesOf arrays.keys).length) := by
    rw [valuesOf, length_map]
    exact pack_eq_ok.mpr ⟨fits, rfl⟩
  refine ⟨_, bind_eq_ok.mpr ⟨_, count, bind_eq_ok.mpr ⟨parts, packed, rfl⟩⟩, ?_⟩
  have reads : Reads readNamedArrays _ _ := Reads.bind (Reads.unpack fits) (Reads.entries each)
  rw [setAll_entriesOf (List.Perm.refl _)] at reads
  exact bind_eq_ok.mpr ⟨_, reads.returns, rfl⟩

end Compression
end Training
end ZepGpu
