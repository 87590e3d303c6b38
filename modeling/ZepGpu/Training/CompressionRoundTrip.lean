import ZepGpu.Training.ZepCompressor

namespace ZepGpu
namespace Training
namespace Compression

open Foundation Dict List

/-!
# What the receiver of an update gets

Every section that the decoder reads has the length that the encoder wrote,
because both know the number of rows from the size of the tensor: the padded
signal has exactly so many chunks.  Indices and levels fit their types, so that
the decoder inverts the same coefficients as the sender did, and returns the
values that the sender subtracted from its signal.
-/

variable {K : Kernels} {config : CompressionConfig}

/-! ## The coefficients of a tensor -/

/-- `(original_size + chunk - 1) // chunk` -/
def CompressionConfig.rows (config : CompressionConfig) (size : Nat) : Nat :=
  (size + config.chunkSize - 1) / config.chunkSize

theorem CompressionConfig.chunk_pos : 0 < config.chunkSize :=
  Nat.lt_of_lt_of_le (by decide) config.chunkSize_bounds.1

theorem CompressionConfig.kept_le : config.kept ≤ config.chunkSize :=
  Nat.min_le_right _ _

theorem CompressionConfig.kept_pos : 1 ≤ config.kept :=
  Nat.le_min.mpr ⟨config.topK_bounds.1, config.chunk_pos⟩

theorem length_padded (signal : List K.Number) :
    (padded K config signal).length = config.rows signal.length * config.chunkSize := by
  rw [padded, length_append, Kernels.zeros, length_replicate]
  exact add_pad config.chunk_pos

theorem take_padded (signal : List K.Number) :
    (padded K config signal).take signal.length = signal :=
  take_left

theorem elementwise_of_length {α : Type} {combine : α -> α -> α} {left right : List α}
    (same : left.length = right.length) :
    elementwise combine left right = .ok (List.zipWith combine left right) := by
  rw [elementwise, broadcast_of_length same]

theorem exists_signalOf {residual : Option (List K.Number)} {flat : List K.Number}
    (fits : config.errorFeedback = true -> ∀ kept, residual = some kept ->
      kept.length = flat.length) :
    ∃ signal, signalOf K config residual flat = .ok signal ∧ signal.length = flat.length := by
  have zeros : (K.zeros flat.length).length = flat.length := length_replicate
  have added : ∀ kept : List K.Number, kept.length = flat.length ->
      ∃ signal, elementwise K.add kept flat = .ok signal ∧ signal.length = flat.length := by
    intro kept same
    refine ⟨_, elementwise_of_length same, ?_⟩
    rw [length_zipWith, same, Nat.min_self]
  cases residual with
  | none => exact added _ zeros
  | some kept =>
    rw [signalOf.eq_def]
    dsimp only
    split_ifs with feedback
    · exact added kept (fits feedback kept rfl)
    · exact added _ zeros

/-- The tables have the sizes that the configuration asks for. -/
structure Selection.Fits (config : CompressionConfig) (rows : Nat) (selected : Selection K) : Prop where
  transformed_length : selected.transformed.length = rows
  transformed_columns : Columns config.chunkSize selected.transformed
  indices_length : selected.indices.length = rows
  indices_columns : Columns config.kept selected.indices
  within : Within config.chunkSize selected.indices
  values_length : selected.values.length = rows
  values_columns : Columns config.kept selected.values

theorem exists_select {rows : Nat} {signal : List K.Number}
    (size : signal.length = rows * config.chunkSize) :
    ∃ selected, select K config signal = .ok selected ∧ selected.Fits config rows := by
  have count : signal.length / config.chunkSize = rows := by
    rw [size, Nat.mul_div_cancel _ config.chunk_pos]
  rw [select, count]
  generalize isTransformed : (rowsOf config.chunkSize rows signal).map K.dct1d = transformed
  have length : transformed.length = rows := by
    rw [← isTransformed, length_map, length_rowsOf]
  have columns : Columns config.chunkSize transformed := by
    intro row member
    rw [← isTransformed] at member
    obtain ⟨chunk, inside, rfl⟩ := mem_map.mp member
    rw [K.length_dct1d]
    exact columns_rowsOf size chunk inside
  -- of every row, the order is a permutation of its places
  have order : ∀ row, row ∈ transformed ->
      (K.argpartition (row.map K.abs) config.kept).Perm (List.range config.chunkSize) := by
    intro row member
    have long : (row.map K.abs).length = config.chunkSize := by
      rw [length_map, columns row member]
    have perm := K.argpartition_perm (row.map K.abs) config.kept config.kept_pos (by
      rw [long]
      exact config.kept_le)
    rwa [long] at perm
  generalize isIndices : (transformed.map fun row =>
    (K.argpartition (row.map K.abs) config.kept).drop
      ((K.argpartition (row.map K.abs) config.kept).length - config.kept)) = indices
  have sameLength : transformed.length = indices.length := by
    rw [← isIndices, length_map]
  have widths : Columns config.kept indices := by
    intro row member
    rw [← isIndices] at member
    obtain ⟨coefficients, inside, rfl⟩ := mem_map.mp member
    have long := (order coefficients inside).length_eq
    rw [length_range] at long
    have small := config.kept_le
    rw [length_drop, long]
    omega
  have within : Within config.chunkSize indices := by
    intro row member index inside
    rw [← isIndices] at member
    obtain ⟨coefficients, from_, rfl⟩ := mem_map.mp member
    exact mem_range.mp ((order coefficients from_).mem_iff.mp (mem_of_mem_drop inside))
  obtain ⟨values, taken, valuesLength, valuesColumns⟩ :=
    exists_takeAlongAxis sameLength columns widths within
  refine ⟨⟨transformed, indices, values⟩, ?_, length, columns, sameLength ▸ length, widths, within,
    valuesLength.trans length, valuesColumns⟩
  simp only [taken, alongAxis]
  rfl

theorem exists_inverse {rows : Nat} {indices : List (List Nat)} {levels : List (List Int)}
    {vmin scale : K.Number} (indicesLength : indices.length = rows)
    (levelsLength : levels.length = rows) (within : Within config.chunkSize indices) :
    ∃ whole, inverse K (List.replicate rows (K.zeros config.chunkSize)) indices levels vmin scale =
      .ok whole ∧ whole.length = rows * config.chunkSize := by
  have blank : Columns config.chunkSize (List.replicate rows (K.zeros config.chunkSize)) := by
    intro row member
    rw [eq_of_mem_replicate member]
    exact length_replicate
  have count : (List.replicate rows (K.zeros config.chunkSize)).length = rows := length_replicate
  have valuesLength : (List.replicate rows (K.zeros config.chunkSize)).length =
      (levels.map fun row => row.map fun level => K.dequantize level vmin scale).length := by
    rw [count, length_map, levelsLength]
  obtain ⟨freq, put, freqLength, freqColumns⟩ :=
    exists_putAlongAxis (count.trans indicesLength.symm) valuesLength blank within
  refine ⟨(freq.map K.idct1d).flatten, ?_, ?_⟩
  · rw [inverse, put]
    rfl
  · have columns : Columns config.chunkSize (freq.map K.idct1d) := by
      intro row member
      obtain ⟨coefficients, inside, rfl⟩ := mem_map.mp member
      rw [K.length_idct1d]
      exact freqColumns coefficients inside
    rw [length_flatten_of_rows columns, length_map, freqLength, count]

/-- The coded values have the sizes that the decoder checks. -/
structure Coded.Fits (config : CompressionConfig) (size : Nat) (coded : Coded K) : Prop where
  indices_length : coded.indices.length = config.rows size
  indices_columns : Columns config.kept coded.indices
  within : Within config.chunkSize coded.indices
  quantized : coded.quantized = K.quantize coded.values config.quantBits
  levels_length : coded.quantized.levels.length = config.rows size
  levels_columns : Columns config.kept coded.quantized.levels
  recon_length : coded.recon.length = size
  /-- The inverse starts from as many rows of zeros as the decoder counts. -/
  recon : ∃ whole, inverse K (List.replicate (config.rows size) (K.zeros config.chunkSize))
    coded.indices coded.quantized.levels (K.float32 coded.quantized.vmin)
    (K.float32 coded.quantized.scale) = .ok whole ∧ whole.take size = coded.recon

/-- What the sender keeps back when the receiver gets these values. -/
def residualOf (K : Kernels) (config : CompressionConfig) (signal received : List K.Number) :
    List K.Number :=
  if config.errorFeedback then List.zipWith K.sub signal received else K.zeros received.length

theorem exists_code {residual : Option (List K.Number)} {flat : List K.Number}
    (fits : config.errorFeedback = true -> ∀ kept, residual = some kept ->
      kept.length = flat.length) :
    ∃ signal coded, signalOf K config residual flat = .ok signal ∧
      code K config residual flat = .ok coded ∧ coded.Fits config flat.length ∧
        coded.residual = residualOf K config signal coded.recon := by
  obtain ⟨signal, isSignal, size⟩ := exists_signalOf fits
  have long : (padded K config signal).length = config.rows signal.length * config.chunkSize :=
    length_padded signal
  obtain ⟨selected, isSelected, shape⟩ := exists_select long
  generalize isQuantized : K.quantize selected.values config.quantBits = quantized
  have widths := K.quantize_shape selected.values config.quantBits config.quantBits_bounds.1
  rw [isQuantized] at widths
  have levelsLength : quantized.levels.length = config.rows signal.length := by
    have same := congrArg List.length widths
    rw [length_map, length_map, shape.values_length] at same
    exact same
  have levelsColumns : Columns config.kept quantized.levels := by
    intro row member
    have inside : row.length ∈ quantized.levels.map List.length := mem_map.mpr ⟨row, member, rfl⟩
    rw [widths] at inside
    obtain ⟨values, from_, same⟩ := mem_map.mp inside
    rw [← same]
    exact shape.values_columns values from_
  have blank := map_const_rows shape.transformed_columns K.zero
  rw [shape.transformed_length] at blank
  obtain ⟨whole, isWhole, wholeLength⟩ : ∃ whole,
      inverse K (List.replicate (config.rows signal.length) (K.zeros config.chunkSize)) selected.indices
          quantized.levels (K.float32 quantized.vmin) (K.float32 quantized.scale) = .ok whole ∧
        whole.length = config.rows signal.length * config.chunkSize :=
    exists_inverse shape.indices_length levelsLength shape.within
  have enough : signal.length ≤ whole.length := by
    rw [wholeLength, ← long, padded, length_append]
    exact Nat.le_add_right _ _
  have reconLength : (whole.take flat.length).length = flat.length := by
    rw [length_take]
    omega
  have kept : keptBack K config (padded K config signal) (whole.take flat.length) flat.length =
      .ok (residualOf K config signal (whole.take flat.length)) := by
    rw [keptBack, residualOf, reconLength, ← size, take_padded]
    split_ifs with feedback
    · apply elementwise_of_length
      rw [size, reconLength]
    · rfl
  refine ⟨signal, ⟨selected.values, selected.indices, quantized, whole.take flat.length,
    residualOf K config signal (whole.take flat.length)⟩, isSignal, ?_, ?_, rfl⟩
  · refine bind_eq_ok.mpr ⟨signal, isSignal, bind_eq_ok.mpr ⟨selected, isSelected, ?_⟩⟩
    rw [isQuantized, blank]
    exact bind_eq_ok.mpr ⟨whole, isWhole, bind_eq_ok.mpr ⟨_, kept, rfl⟩⟩
  · rw [← size] at reconLength ⊢
    exact ⟨shape.indices_length, shape.indices_columns, shape.within, isQuantized.symm, levelsLength,
      levelsColumns, reconLength, whole, isWhole, rfl⟩

/-! ## The sections of a tensor -/

theorem exists_integers {levels : List (List Int)}
    (nonneg : ∀ row, row ∈ levels -> ∀ level, level ∈ row -> 0 ≤ level) :
    ∃ naturals, integers naturals = levels := by
  refine ⟨levels.map fun row => row.map Int.toNat, ?_⟩
  rw [integers, map_map]
  refine (map_congr_left ?_).trans (map_id levels)
  intro row member
  refine (map_map.trans (map_congr_left ?_)).trans (map_id row)
  intro level inside
  exact Int.toNat_of_nonneg (nonneg row member level inside)

theorem columns_integers {columns : Nat} {naturals : List (List Nat)} :
    Columns columns (integers naturals) ↔ Columns columns naturals := by
  simp [Columns, integers]

section Matrices

variable {codec : FixedCodec Nat} {naturals : List (List Nat)}

theorem castBytes_integers (small : ∀ row, row ∈ naturals -> ∀ n, n ∈ row ->
    n < 256 ^ codec.width) : castBytes codec (integers naturals) = codec.encodeMany naturals.flatten := by
  have flat : (integers naturals).flatten = naturals.flatten.map fun n : Nat => (n : Int) := by
    rw [integers, ← map_flatten]
  rw [castBytes, flat, map_map]
  apply congrArg
  refine (map_congr_left ?_).trans (map_id _)
  intro n member
  obtain ⟨row, inside, among⟩ := mem_flatten.mp member
  change ((n : Int) % (256 ^ codec.width : Nat)).toNat = n
  rw [← Int.natCast_mod, Int.toNat_natCast, Nat.mod_eq_of_lt (small row inside n among)]

theorem matrixOf_castBytes {columns : Nat} (wide : 0 < codec.width)
    (fits : ∀ n, n < 256 ^ codec.width -> codec.fits n) (lengths : Columns columns naturals)
    (small : ∀ row, row ∈ naturals -> ∀ n, n ∈ row -> n < 256 ^ codec.width) :
    (castBytes codec (integers naturals)).length = naturals.length * columns * codec.width ∧
      matrixOf codec naturals.length columns (castBytes codec (integers naturals)) = .ok naturals := by
  have entries : ∀ n, n ∈ naturals.flatten -> codec.fits n := by
    intro n member
    obtain ⟨row, inside, among⟩ := mem_flatten.mp member
    exact fits n (small row inside n among)
  have count := length_flatten_of_rows lengths
  rw [castBytes_integers small]
  constructor
  · rw [FixedCodec.length_encodeMany entries, count]
  · refine bind_eq_ok.mpr ⟨_, frombuffer_encodeMany wide entries, ?_⟩
    rw [if_pos count, rowsOf_flatten lengths]

end Matrices

/-- The values that the sender subtracts, in the shape of the tensor. -/
def Coded.received {coded : Coded K} (array : NdArray K.Number)
    (fits : coded.Fits config array.values.length) : NdArray K.Number :=
  ⟨array.shape, coded.recon, fits.recon_length.trans array.length_values, array.admissible⟩

theorem packTensor_reads {name : String} {array : NdArray K.Number} {coded : Coded K}
    (nameFits : (utf8 name).length < 2 ^ 16) (sizeFits : array.values.length < 2 ^ 32)
    (fits : coded.Fits config array.values.length)
    (numbers : ¬ K.quotientIsNan coded.values config.quantBits) :
    ∃ bytes, packTensor K config name array coded = .ok bytes ∧
      Reads (readTensor K) bytes (name, Coded.received array fits) := by
  have chunkFits : config.chunkSize < 256 ^ 2 :=
    Nat.lt_of_le_of_lt config.chunkSize_bounds.2 (by decide)
  have bitsFit := config.quantBits_bounds
  have record : tensorRecord.fits ((utf8 name).length, array.shape.length, config.kept,
      config.chunkSize, config.quantBits, if config.errorFeedback then 1 else 0) := by
    have keptFits := config.kept_le
    have shapeFits := array.admissible.1
    refine ⟨nameFits, Nat.lt_of_le_of_lt shapeFits (by decide), ?_, ?_, ?_, ?_⟩
    · change config.kept < 256 ^ 4
      omega
    · change config.chunkSize < 256 ^ 4
      omega
    · change -((256 ^ 1 : Nat) : Int) ≤ 2 * config.quantBits ∧
        2 * (config.quantBits : Int) < (256 ^ 1 : Nat)
      omega
    · change (if config.errorFeedback then 1 else 0) < 256 ^ 4
      split_ifs <;> decide
  have dims := fits_dimsOf array.admissible
  obtain ⟨⟨vmin, packedVmin⟩, ⟨scale, packedScale⟩⟩ :=
    K.packFloat_quantize coded.values config.quantBits bitsFit.1
  rw [← fits.quantized] at packedVmin packedScale
  have numbersFit : numbersRecord.fits (vmin, scale, array.values.length) :=
    ⟨K.length_packFloat _ _ packedVmin, K.length_packFloat _ _ packedScale, sizeFits⟩
  -- both matrices fit their types
  have indicesSmall : ∀ row, row ∈ coded.indices -> ∀ n, n ∈ row -> n < 256 ^ uint16.width :=
    fun row member n inside => Nat.lt_trans (fits.within row member n inside) chunkFits
  obtain ⟨indicesLength, indicesRead⟩ := matrixOf_castBytes (by decide) (fun _ small => small)
    fits.indices_columns indicesSmall
  have clipped := K.quantize_clip coded.values config.quantBits bitsFit.1 numbers
  rw [← fits.quantized] at clipped
  obtain ⟨levels, isLevels⟩ := exists_integers fun row member level inside =>
    (clipped row member level inside).1
  have levelsLength := fits.levels_length
  have levelsColumns := fits.levels_columns
  rw [← isLevels] at clipped levelsLength levelsColumns
  rw [integers, length_map] at levelsLength
  have levelsSmall : ∀ row, row ∈ levels -> ∀ n, n ∈ row -> n < 256 ^ uint8.width := by
    intro row member n inside
    have bound := (clipped _ (mem_map.mpr ⟨row, member, rfl⟩) _
      (mem_map.mpr ⟨n, inside, rfl⟩)).2
    have powers : (2 : Int) ^ config.quantBits ≤ 2 ^ 8 :=
      pow_le_pow_right₀ (by decide) bitsFit.2
    change n < 256 ^ 1
    omega
  obtain ⟨bytesLength, bytesRead⟩ := matrixOf_castBytes (by decide) (fun _ small => small)
    (columns_integers.mp levelsColumns) levelsSmall
  rw [fits.indices_length] at indicesLength indicesRead
  rw [levelsLength] at bytesLength bytesRead
  obtain ⟨whole, isWhole, taken⟩ := fits.recon
  rw [← isLevels, ← K.float32_unpackFloat _ _ packedVmin, ← K.float32_unpackFloat _ _ packedScale]
    at isWhole
  have nonzero : config.chunkSize ≠ 0 := Nat.ne_of_gt config.chunk_pos
  refine ⟨_, bind_eq_ok.mpr ⟨_, pack_eq_ok.mpr ⟨record, rfl⟩, bind_eq_ok.mpr ⟨_,
    packDimensions_eq_ok.mpr ⟨dims, rfl⟩, bind_eq_ok.mpr ⟨vmin, packedVmin, bind_eq_ok.mpr ⟨scale,
    packedScale, bind_eq_ok.mpr ⟨_, pack_eq_ok.mpr ⟨numbersFit, rfl⟩, rfl⟩⟩⟩⟩⟩, ?_⟩
  rw [if_pos bitsFit.2, ← isLevels]
  apply Reads.bind (Reads.unpack record)
  apply Reads.bind (Reads.slice rfl)
  apply Reads.bind_lift (decodeUtf8_utf8 name)
  have count : array.shape.length = (dimsOf array.shape).length := (length_map _).symm
  rw [count]
  apply Reads.bind (Reads.unpackMany dims)
  apply Reads.bind (Reads.unpack numbersFit)
  apply Reads.bind_lift (raiseIf_eq_ok.mpr nonzero : raiseIf _ _ = .ok ())
  apply Reads.bind (Reads.slice indicesLength)
  apply Reads.bind_lift indicesRead
  have readsLevels : Reads (readLevels config.quantBits (config.rows array.values.length) config.kept)
      (castBytes uint8 (integers levels)) levels := by
    rw [readLevels, if_pos (by omega)]
    refine Reads.bind_last (Reads.slice ?_) (Reads.lift bytesRead)
    rw [bytesLength]
    exact Nat.mul_one _
  apply Reads.bind_last readsLevels
  apply Reads.bind_lift isWhole
  rw [taken]
  apply Reads.bind_lift (reshape_shape (Coded.received array fits))
  exact Reads.pure _

/-! ## An update -/

/-- A tensor that can be sent: its lengths have fields, what was kept back
under its name has its size, and it is quantized to numbers. -/
structure Ready (K : Kernels) (config : CompressionConfig) (before : Option (List K.Number))
    (name : String) (array : NdArray K.Number) : Prop where
  name_fits : (utf8 name).length < 2 ^ 16
  size_fits : array.values.length < 2 ^ 32
  residual_fits : config.errorFeedback = true -> ∀ kept, before = some kept ->
    kept.length = array.values.length
  numbers : ∀ coded, code K config before array.values = .ok coded ->
    ¬ K.quotientIsNan coded.values config.quantBits

/-- The receiver gets the shape of the tensor and the values that the sender
subtracts: what is kept back afterwards is the signal without them. -/
structure Transmitted (K : Kernels) (config : CompressionConfig)
    (before after : Option (List K.Number)) (array received : NdArray K.Number) : Prop where
  shape_eq : received.shape = array.shape
  values_eq : ∃ coded, code K config before array.values = .ok coded ∧
    received.values = coded.recon
  subtracted : ∃ signal, signalOf K config before array.values = .ok signal ∧
    signal.length = array.values.length ∧ after = some (residualOf K config signal received.values)

/-- Every tensor can be sent, and there is a field for their number. -/
structure Sendable (K : Kernels) (config : CompressionConfig) (state : CompressorState K)
    (tensors : Dict String (NdArray K.Number)) : Prop where
  few : tensors.keys.length < 2 ^ 32
  ready : ∀ name array, tensors.get? name = some array ->
    Ready K config (state.residuals.get? name) name array

def ResidualsFit (state : CompressorState K) (tensors : Dict String (NdArray K.Number)) : Prop :=
  ∀ name array, tensors.get? name = some array -> ∀ kept,
    state.residuals.get? name = some kept -> kept.length = array.values.length

theorem Transmitted.length_after {before after : Option (List K.Number)}
    {array received : NdArray K.Number} (sent : Transmitted K config before after array received)
    {kept : List K.Number} (isKept : after = some kept) : kept.length = array.values.length := by
  obtain ⟨signal, _, size, same⟩ := sent.subtracted
  have values : received.values.length = array.values.length := by
    rw [received.length_values, sent.shape_eq, array.length_values]
  rw [isKept, Option.some.injEq] at same
  rw [same, residualOf]
  split_ifs
  · rw [length_zipWith, size, values, Nat.min_self]
  · rw [Kernels.zeros, length_replicate, values]

theorem compressTensor_reads {state : CompressorState K} {name : String} {array : NdArray K.Number}
    (ready : Ready K config (state.residuals.get? name) name array) :
    ∃ bytes received kept, compressTensor K config name array state =
        ⟨.ok bytes, ⟨state.residuals.set name kept⟩⟩ ∧
      Reads (readTensor K) bytes (name, received) ∧
        Transmitted K config (state.residuals.get? name) (some kept) array received := by
  obtain ⟨signal, coded, isSignal, isCoded, fits, kept⟩ := exists_code ready.residual_fits
  obtain ⟨bytes, packed, reads⟩ :=
    packTensor_reads ready.name_fits ready.size_fits fits (ready.numbers coded isCoded)
  have size : signal.length = array.values.length := by
    obtain ⟨other, isOther, length⟩ := exists_signalOf ready.residual_fits
    rw [isSignal] at isOther
    rw [Except.ok.inj isOther, length]
  refine ⟨bytes, Coded.received array fits, coded.residual, ?_, reads, rfl, ⟨coded, isCoded, rfl⟩,
    signal, isSignal, size, ?_⟩
  · rw [compressTensor, isCoded]
    change Outcome.mk (packTensor K config name array coded) _ = _
    rw [packed]
  · rw [kept]
    rfl

/-- Every name finds what was kept back under it before the call, since no
other name of the call writes there. -/
theorem compressAll_reads {entries : List (String × NdArray K.Number)} {state : CompressorState K}
    (nodup : (entries.map Prod.fst).Nodup)
    (ready : ∀ name array, (name, array) ∈ entries ->
      Ready K config (state.residuals.get? name) name array) :
    ∃ parts later pairs, compressAll K config entries state = ⟨.ok parts, later⟩ ∧
      List.Forall₂ (Reads (readTensor K)) parts pairs ∧
      pairs.map Prod.fst = entries.map Prod.fst ∧
      (∀ name array, (name, array) ∈ entries -> ∃ received, (name, received) ∈ pairs ∧
        Transmitted K config (state.residuals.get? name) (later.residuals.get? name) array received) ∧
      ∀ name, name ∉ entries.map Prod.fst ->
        later.residuals.get? name = state.residuals.get? name := by
  induction entries generalizing state with
  | nil => exact ⟨[], state, [], rfl, List.Forall₂.nil, rfl, by simp, fun _ _ => rfl⟩
  | cons entry rest ih =>
    obtain ⟨name, array⟩ := entry
    rw [map_cons, nodup_cons] at nodup
    obtain ⟨bytes, received, kept, compressed, reads, sent⟩ :=
      compressTensor_reads (ready name array mem_cons_self)
    have untouched : ∀ other otherArray, (other, otherArray) ∈ rest ->
        (state.residuals.set name kept).get? other = state.residuals.get? other := by
      intro other otherArray member
      apply get?_set_of_ne
      rintro rfl
      exact nodup.1 (mem_map.mpr ⟨_, member, rfl⟩)
    have readyRest : ∀ other otherArray, (other, otherArray) ∈ rest ->
        Ready K config ((state.residuals.set name kept).get? other) other otherArray := by
      intro other otherArray member
      rw [untouched other otherArray member]
      exact ready other otherArray (mem_cons_of_mem _ member)
    obtain ⟨parts, later, pairs, run, each, names, sentRest, outside⟩ :=
      @ih ⟨state.residuals.set name kept⟩ nodup.2 readyRest
    have here : later.residuals.get? name = some kept :=
      (outside name nodup.1).trans get?_set_self
    refine ⟨bytes :: parts, later, (name, received) :: pairs, ?_, List.Forall₂.cons reads each, ?_,
      ?_, ?_⟩
    · rw [compressAll, compressed]
      change (compressAll K config rest ⟨state.residuals.set name kept⟩).andThen _ = _
      rw [run]
      rfl
    · rw [map_cons, map_cons, names]
    · intro other otherArray member
      rcases mem_cons.mp member with same | among
      · obtain ⟨rfl, rfl⟩ := Prod.mk.inj same
        refine ⟨received, mem_cons_self, ?_⟩
        rw [here]
        exact sent
      · obtain ⟨otherReceived, inside, otherSent⟩ := sentRest other otherArray among
        change Transmitted K config ((state.residuals.set name kept).get? other) _ _ _ at otherSent
        rw [untouched other otherArray among] at otherSent
        exact ⟨otherReceived, mem_cons_of_mem _ inside, otherSent⟩
    · intro other absent
      rw [map_cons, mem_cons, not_or] at absent
      exact (outside other absent.2).trans (get?_set_of_ne absent.1)

theorem compress_of_parts {tensors : Dict String (NdArray K.Number)} {state later : CompressorState K}
    {count : Bytes} {parts : List Bytes} (counted : pack headerCount tensors.keys.length = .ok count)
    (run : compressAll K config (tensors.entriesOf tensors.sortedKeys) state = ⟨.ok parts, later⟩) :
    ∃ update, compress K config tensors state = ⟨.ok update, later⟩ ∧
      update.codec = codecZep ∧ update.payload = count ++ parts.flatten := by
  rw [compress, counted]
  change ∃ update, (compressAll K config _ state).andThen _ = _ ∧ _
  rw [run]
  exact ⟨_, rfl, rfl, rfl⟩

theorem decompress_of_reads {update : CompressedUpdate} {returned : Dict String (NdArray K.Number)}
    (codec : update.codec = codecZep) (reads : Reads (readTensors K) update.payload returned) :
    decompress K update = .ok returned :=
  raiseIf_bind_eq_ok.mpr ⟨fun different => different codec,
    bind_eq_ok.mpr ⟨(returned, []), reads.returns, rfl⟩⟩

/-- An update that can be sent is compressed, and decompressed to the names in
sorted order, each with the values that its sender subtracted. -/
theorem decompress_compress {tensors : Dict String (NdArray K.Number)} {state : CompressorState K}
    (sendable : Sendable K config state tensors) :
    ∃ update later returned, compress K config tensors state = ⟨.ok update, later⟩ ∧
      decompress K update = .ok returned ∧ returned.keys = tensors.sortedKeys ∧
      ∀ name array, tensors.get? name = some array ->
        ∃ received, returned.get? name = some received ∧
          Transmitted K config (state.residuals.get? name) (later.residuals.get? name) array
            received := by
  have names : (tensors.entriesOf tensors.sortedKeys).map Prod.fst = tensors.sortedKeys :=
    map_fst_entriesOf fun name member => mem_sortedKeys.mp member
  have nodup : tensors.sortedKeys.Nodup :=
    (perm_insertionSort _ tensors.keys).nodup_iff.mpr tensors.nodup
  obtain ⟨parts, later, pairs, run, each, pairNames, sent, _⟩ :=
    compressAll_reads (names.symm ▸ nodup) fun name array member =>
      sendable.ready name array (mem_entriesOf.mp member).2
  rw [names] at pairNames
  have length : pairs.length = tensors.keys.length := by
    rw [← length_map Prod.fst, pairNames, length_sortedKeys]
  have fits : headerCount.fits pairs.length := by
    change _ < 256 ^ 4
    rw [length]
    exact sendable.few
  have count : pack headerCount tensors.keys.length = .ok (headerCount.encode pairs.length) := by
    rw [← length]
    exact pack_eq_ok.mpr ⟨fits, rfl⟩
  have reads : Reads (readTensors K) _ _ := Reads.bind (Reads.unpack fits) (Reads.entries each)
  have fresh : ∀ name, name ∈ pairs.map Prod.fst ->
      name ∉ (Dict.empty : Dict String (NdArray K.Number)).keys := fun _ _ => not_mem_nil
  obtain ⟨order, written, _⟩ := setAll_of_fresh (pairNames ▸ nodup) fresh
  obtain ⟨update, compressed, codec, payload⟩ := compress_of_parts count run
  rw [← payload] at reads
  refine ⟨update, later, Dict.empty.setAll pairs, compressed, decompress_of_reads codec reads,
    order.trans pairNames, ?_⟩
  intro name array found
  have member := mem_sortedKeys.mpr (mem_keys_of_get? found)
  obtain ⟨received, inside, transmitted⟩ := sent name array (mem_entriesOf.mpr ⟨member, found⟩)
  exact ⟨received, written name received inside, transmitted⟩

end Compression
end Training
end ZepGpu
