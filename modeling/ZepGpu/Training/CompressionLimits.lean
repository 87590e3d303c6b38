import ZepGpu.Training.CompressionRoundTrip

namespace ZepGpu
namespace Training
namespace Compression

open Foundation Dict Outcome List

/-!
# The limits of the update formats

Both formats have fields of four bytes for their counts and sizes, so that a
tensor with `2 ^ 32` numbers cannot be compressed, and one with `2 ^ 30`
numbers cannot be packed.  The compressor also needs the residuals that it
kept to have the sizes of the tensors, which every update leaves so, and
levels that a byte can hold.  Within these limits every update is received as
its sender accounted for it.
-/

variable {K : Kernels} {config : CompressionConfig}

theorem size_of_packTensor {name : String} {array : NdArray K.Number} {coded : Coded K} {bytes : Bytes}
    (packed : packTensor K config name array coded = .ok bytes) : array.values.length < 2 ^ 32 := by
  rw [packTensor] at packed
  obtain ⟨_, _, packed⟩ := bind_eq_ok.mp packed
  obtain ⟨_, _, packed⟩ := bind_eq_ok.mp packed
  obtain ⟨_, _, packed⟩ := bind_eq_ok.mp packed
  obtain ⟨_, _, packed⟩ := bind_eq_ok.mp packed
  obtain ⟨_, numbers, _⟩ := bind_eq_ok.mp packed
  exact (pack_eq_ok.mp numbers).1.2.2

theorem sizes_of_compressAll {entries : List (String × NdArray K.Number)}
    {state later : CompressorState K} {parts : List Bytes}
    (run : compressAll K config entries state = ⟨.ok parts, later⟩) :
    ∀ entry, entry ∈ entries -> entry.2.values.length < 2 ^ 32 := by
  induction entries generalizing state later parts with
  | nil => exact fun _ impossible => absurd impossible not_mem_nil
  | cons entry rest ih =>
    obtain ⟨name, array⟩ := entry
    obtain ⟨bytes, middle, compressed, run⟩ := exists_of_andThen run
    obtain ⟨others, final, runRest, _⟩ := exists_of_andThen run
    obtain ⟨coded, _, _, packed⟩ := exists_of_andThen compressed
    intro entry member
    rcases mem_cons.mp member with rfl | among
    · exact size_of_packTensor (congrArg Outcome.result packed)
    · exact ih runRest entry among

theorem fields_of_compress {tensors : Dict String (NdArray K.Number)} {state later : CompressorState K}
    {update : CompressedUpdate} (compressed : compress K config tensors state = ⟨.ok update, later⟩) :
    tensors.keys.length < 2 ^ 32 ∧
      ∀ name array, tensors.get? name = some array -> array.values.length < 2 ^ 32 := by
  rw [compress] at compressed
  obtain ⟨count, same, counted, compressed⟩ := exists_of_andThen compressed
  obtain ⟨parts, final, run, _⟩ := exists_of_andThen compressed
  have packed : pack headerCount tensors.keys.length = .ok count := congrArg Outcome.result counted
  refine ⟨(pack_eq_ok.mp packed).1, ?_⟩
  intro name array found
  have member := mem_sortedKeys.mpr (mem_keys_of_get? found)
  exact sizes_of_compressAll run (name, array) (mem_entriesOf.mpr ⟨member, found⟩)

/-- Kernels that give every coefficient the same level.  With the level `0`
they do on zeros what the kernels of the codec do there.  Another level stands
for the integer that a NaN is converted to. -/
@[reducible] def constantKernels (constant : Int) : Kernels where
  Number := Int
  Double := Int
  zero := 0
  add := (· + ·)
  sub := (· - ·)
  abs := fun value => value.natAbs
  dct1d := id
  idct1d := id
  argpartition := fun row _ => List.range row.length
  quantize := fun values _ => ⟨values.map fun row => row.map fun _ => constant, 0, 1⟩
  dequantize := fun level vmin scale => level * scale + vmin
  float32 := id
  packFloat := fun value =>
    if value = 0 then .ok [0, 0, 0, 0] else if value = 1 then .ok [63, 128, 0, 0] else .error .structError
  unpackFloat := fun data => if data = [0, 0, 0, 0] then 0 else 1
  quotientIsNan := fun _ _ => constant ≠ 0
  length_dct1d := fun _ => rfl
  length_idct1d := fun _ => rfl
  argpartition_perm := fun _ _ _ _ => List.Perm.refl _
  quantize_shape := fun values _ _ => by simp [Function.comp_def]
  quantize_clip := fun values bits _ number row member level inside => by
    obtain ⟨coefficients, _, rfl⟩ := mem_map.mp member
    obtain ⟨_, _, rfl⟩ := mem_map.mp inside
    rw [not_not.mp number]
    exact ⟨Int.le_refl 0, Int.pow_pos (by decide)⟩
  packFloat_quantize := fun _ _ _ => ⟨⟨_, rfl⟩, ⟨_, rfl⟩⟩
  length_packFloat := fun value data packed => by
    split_ifs at packed
    · rw [← Except.ok.inj packed]
      rfl
    · rw [← Except.ok.inj packed]
      rfl
  float32_unpackFloat := fun value data packed => by
    split_ifs at packed with zero one
    · rw [← Except.ok.inj packed, zero]
      rfl
    · rw [← Except.ok.inj packed, one]
      rfl

/-- `np.full(shape, value)` -/
def full {α : Type} (value : α) (shape : List Nat) (admissible : Admissible shape) : NdArray α :=
  ⟨shape, List.replicate shape.prod value, length_replicate, admissible⟩

def only {α : Type} (value : α) : Dict String α :=
  Dict.tabulate ["w"] (nodup_singleton "w") fun _ => value

theorem residualsFit_of_transmitted {tensors returned : Dict String (NdArray K.Number)}
    {state later : CompressorState K}
    (sent : ∀ name array, tensors.get? name = some array ->
      ∃ received, returned.get? name = some received ∧
        Transmitted K config (state.residuals.get? name) (later.residuals.get? name) array received) :
    ResidualsFit later tensors := by
  intro name array found kept isKept
  obtain ⟨received, _, transmitted⟩ := sent name array found
  exact transmitted.length_after isKept

/-- What is compressed is transmitted up to the residual, and what is packed comes back
as it was, within the limits of the formats. -/
theorem updates_round_trip {tensors : Dict String (NdArray K.Number)} {state : CompressorState K}
    {arrays : Dict String (NdArray Word)} {codec : String} {metadata : Dict String Json}
    (sendable : Sendable K config state tensors) (few : arrays.keys.length < 2 ^ 32)
    (packable : ∀ name array, arrays.get? name = some array -> Packable name array) :
    (∃ update later returned, compress K config tensors state = ⟨.ok update, later⟩ ∧
      decompress K update = .ok returned ∧ returned.keys = tensors.sortedKeys ∧
      (∀ name array, tensors.get? name = some array ->
        ∃ received, returned.get? name = some received ∧
          Transmitted K config (state.residuals.get? name) (later.residuals.get? name) array received) ∧
      ResidualsFit later tensors) ∧
    ∃ update, packNamedArrays arrays.keys (valuesOf arrays) codec metadata = .ok update ∧
      unpackNamedArrays update = .ok arrays := by
  obtain ⟨update, later, returned, compressed, decompressed, keys, sent⟩ := decompress_compress sendable
  exact ⟨⟨update, later, returned, compressed, decompressed, keys, sent,
    residualsFit_of_transmitted sent⟩, unpackNamedArrays_packNamedArrays few packable⟩

/-- A small configuration, a tensor of zeros and an empty one. -/
def smallConfig : CompressionConfig where
  topK := 8
  chunkSize := 8

def sampleTensors : Dict String (NdArray Int) :=
  Dict.tabulate ["b", "a"] (by decide) fun name =>
    if name = "b" then full 0 [2, 3] (by decide) else full 0 [0] (by decide)

def sampleArrays : Dict String (NdArray Word) :=
  only (full ⟨[0, 0, 128, 63], rfl⟩ [2] (by decide))

theorem sampleTensors_sendable : Sendable (constantKernels 0) smallConfig {} sampleTensors := by
  refine ⟨by decide, ?_⟩
  intro name array found
  have member : name ∈ ["b", "a"] := mem_keys_of_get? found
  refine ⟨?_, ?_, fun _ kept impossible => (nomatch impossible), fun _ _ nan => nan rfl⟩
  · rcases mem_cons.mp member with rfl | last
    · decide
    · rw [mem_singleton.mp last]
      decide
  · rcases mem_cons.mp member with rfl | last
    · obtain rfl := Option.some.inj found
      decide
    · obtain rfl := mem_singleton.mp last
      obtain rfl := Option.some.inj found
      decide

/-- One tensor of a few numbers, for a kernel that is constant. -/
theorem sample_updates_round_trip :
    (∃ update later returned,
      compress (constantKernels 0) smallConfig sampleTensors {} = ⟨.ok update, later⟩ ∧
      decompress (constantKernels 0) update = .ok returned ∧
      returned.keys = Dict.sortedKeys sampleTensors ∧
      (∀ name array, sampleTensors.get? name = some array ->
        ∃ received, returned.get? name = some received ∧
          Transmitted (constantKernels 0) smallConfig none (later.residuals.get? name) array received) ∧
      ResidualsFit later sampleTensors) ∧
    ∃ update, packNamedArrays ["w"] (valuesOf sampleArrays) "none" = .ok update ∧
      unpackNamedArrays update = .ok sampleArrays :=
  updates_round_trip sampleTensors_sendable (by decide) (by
    intro name array found
    obtain rfl := mem_singleton.mp (mem_keys_of_get? found)
    obtain rfl := Option.some.inj found
    exact ⟨by decide, by decide⟩)

/-- A name of two characters for every number below `2 ^ 32`. -/
def nameAt (number : Nat) : String :=
  String.ofList [Char.ofNat (65536 + number / 65536), Char.ofNat (65536 + number % 65536)]

theorem nameAt_injOn {left right : Nat} (leftSmall : left < 2 ^ 32) (rightSmall : right < 2 ^ 32)
    (same : nameAt left = nameAt right) : left = right := by
  have toNat : ∀ offset, offset < 65536 -> (Char.ofNat (65536 + offset)).toNat = 65536 + offset := by
    intro offset small
    have valid : Nat.isValidChar (65536 + offset) := Or.inr ⟨by omega, by omega⟩
    rw [Char.ofNat, dif_pos valid]
    rfl
  have chars := congrArg String.toList same
  rw [nameAt, nameAt, String.toList_ofList, String.toList_ofList, List.cons.injEq, List.cons.injEq]
    at chars
  have high := congrArg Char.toNat chars.1
  have low := congrArg Char.toNat chars.2.1
  rw [toNat _ (by omega), toNat _ (by omega)] at high low
  omega

def namesBelow (count : Nat) : List String :=
  (List.range count).map nameAt

theorem namesBelow_nodup {count : Nat} (small : count ≤ 2 ^ 32) : (namesBelow count).Nodup := by
  refine List.Nodup.map_on ?_ nodup_range
  intro left leftMember right rightMember same
  rw [mem_range] at leftMember rightMember
  exact nameAt_injOn (Nat.lt_of_lt_of_le leftMember small) (Nat.lt_of_lt_of_le rightMember small) same

def scalars (count : Nat) (small : count ≤ 2 ^ 32) : Dict String (NdArray Int) :=
  Dict.tabulate (namesBelow count) (namesBelow_nodup small) fun _ => full 0 [] (by decide)

theorem length_scalars {count : Nat} (small : count ≤ 2 ^ 32) :
    (scalars count small).keys.length = count := by
  change ((List.range count).map nameAt).length = count
  rw [length_map, length_range]

def hugeTensor : NdArray Int :=
  full 0 [2 ^ 32] (by decide)

def largeArray : NdArray Word :=
  full ⟨[0, 0, 0, 0], rfl⟩ [2 ^ 30] (by decide)

/-- What the receiver holds under the name when `compress` and `decompress` return. -/
def receivedValues (K : Kernels) (config : CompressionConfig) (tensors : Dict String (NdArray K.Number)) :
    Option (List K.Number) := do
  let update ← (compress K config tensors {}).result.toOption
  let returned ← (decompress K update).toOption
  let received ← returned.get? "w"
  some received.values

/-- Not every update goes through: a tensor of `2 ^ 32` numbers, an array of
`2 ^ 30` numbers, and `2 ^ 32` tensors have no fields, a residual of another
size cannot be added, and a level that is no byte arrives as another. -/
theorem updates_beyond_the_limits :
    (¬ ∃ update later,
      compress (constantKernels 0) {} (only hugeTensor) {} = ⟨.ok update, later⟩) ∧
    (¬ ∃ update, packNamedArrays ["w"] [largeArray] "none" = .ok update) ∧
    (¬ ∃ update later,
      compress (constantKernels 0) {} (scalars (2 ^ 32) (Nat.le_refl _)) {} = ⟨.ok update, later⟩) ∧
    (compress (constantKernels 0) {} (only (full 0 [2] (by decide)))
      ⟨only [0, 0, 0]⟩).result.toOption.isNone ∧
    receivedValues (constantKernels (-2147483648)) smallConfig (only (full 0 [8] (by decide))) =
      some [0, 0, 0, 0, 0, 0, 0, 0] ∧
    ((code (constantKernels (-2147483648)) smallConfig none [0, 0, 0, 0, 0, 0, 0, 0]).toOption.map
      Coded.recon) = some (List.replicate 8 (-2147483648)) := by
  refine ⟨?_, ?_, ?_, by decide +kernel, by decide +kernel, by decide +kernel⟩
  · rintro ⟨update, later, compressed⟩
    have small := (fields_of_compress compressed).2 "w" hugeTensor rfl
    rw [hugeTensor.length_values] at small
    change 2 ^ 32 * 1 < 2 ^ 32 at small
    omega
  · rintro ⟨update, packed⟩
    obtain ⟨_, _, packed⟩ := bind_eq_ok.mp packed
    obtain ⟨_, zipped, _⟩ := bind_eq_ok.mp packed
    obtain ⟨_, first, _⟩ := bind_eq_ok.mp zipped
    have small := (packable_of_packNamedArray first).2
    change 2 ^ 30 * 1 < 2 ^ 30 at small
    omega
  · rintro ⟨update, later, compressed⟩
    have few := (fields_of_compress compressed).1
    rw [length_scalars] at few
    exact absurd few (Nat.lt_irrefl _)

end Compression
end Training
end ZepGpu
