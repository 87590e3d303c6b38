import Mathlib.Data.Int.Basic
import Mathlib.Data.List.Induction
import Mathlib.Tactic.Ring

namespace ZepGpu
namespace Foundation

open List

/-!
# Byte strings and fixed-width records

A fixed-width codec writes values of one type to byte strings of one length.
It states which values it can write, and both directions of the round trip:
a value that is written reads back, and a byte string of the right length
reads as a value that writes it.  Codecs are put together field by field, so
that a record with many fields needs no proof of its own.
-/

abbrev Bytes := List UInt8

/-- The low `width` bytes of a number, most significant first. -/
def bigEndian : Nat -> Nat -> Bytes
  | 0, _ => []
  | width + 1, value => bigEndian width (value / 256) ++ [UInt8.ofNat value]

def ofBigEndian (bytes : Bytes) : Nat :=
  bytes.foldl (fun sum byte => sum * 256 + byte.toNat) 0

theorem length_bigEndian (width value : Nat) : (bigEndian width value).length = width := by
  induction width generalizing value with
  | zero => rfl
  | succ width ih => rw [bigEndian, length_append, ih, length_singleton]

theorem ofBigEndian_append_singleton (bytes : Bytes) (byte : UInt8) :
    ofBigEndian (bytes ++ [byte]) = ofBigEndian bytes * 256 + byte.toNat := by
  rw [ofBigEndian, foldl_append]
  rfl

theorem ofBigEndian_bigEndian (width value : Nat) :
    ofBigEndian (bigEndian width value) = value % 256 ^ width := by
  induction width generalizing value with
  | zero => rw [Nat.pow_zero, Nat.mod_one]; rfl
  | succ width ih =>
    have low : (UInt8.ofNat value).toNat = value % 256 := UInt8.toNat_ofNat'
    rw [bigEndian, ofBigEndian_append_singleton, ih, low, Nat.pow_succ,
      Nat.mul_comm (256 ^ width) 256, Nat.mod_mul]
    ring

theorem ofBigEndian_lt (bytes : Bytes) : ofBigEndian bytes < 256 ^ bytes.length := by
  induction bytes using List.reverseRecOn with
  | nil => exact Nat.one_pos
  | append_singleton front last ih =>
    have small : last.toNat < 256 := last.toNat_lt
    rw [ofBigEndian_append_singleton, length_append, length_singleton, Nat.pow_succ]
    omega

theorem bigEndian_ofBigEndian (bytes : Bytes) :
    bigEndian bytes.length (ofBigEndian bytes) = bytes := by
  induction bytes using List.reverseRecOn with
  | nil => rfl
  | append_singleton front last ih =>
    have small : last.toNat < 256 := last.toNat_lt
    have high : (ofBigEndian front * 256 + last.toNat) / 256 = ofBigEndian front := by omega
    have low : UInt8.ofNat (ofBigEndian front * 256 + last.toNat) = last := by
      apply UInt8.toNat_inj.mp
      rw [UInt8.toNat_ofNat']
      omega
    rw [length_append, length_singleton, bigEndian, ofBigEndian_append_singleton, high, ih, low]

def complement (modulus : Nat) (value : Int) : Nat :=
  (value % modulus).toNat

def ofComplement (modulus : Nat) (value : Nat) : Int :=
  if 2 * value < modulus then value else (value : Int) - modulus

theorem ofComplement_complement {modulus : Nat} {value : Int} (least : -(modulus : Int) ≤ 2 * value)
    (most : 2 * value < modulus) : ofComplement modulus (complement modulus value) = value := by
  have positive : (0 : Int) < modulus := by omega
  rw [ofComplement, complement]
  by_cases negative : value < 0
  · have wrapped : value % (modulus : Int) = value + modulus := by
      rw [← Int.add_emod_right]
      exact Int.emod_eq_of_lt (by omega) (by omega)
    rw [wrapped]
    split_ifs <;> omega
  · have kept : value % (modulus : Int) = value := Int.emod_eq_of_lt (by omega) (by omega)
    rw [kept]
    split_ifs <;> omega

theorem complement_ofComplement {modulus value : Nat} (small : value < modulus) :
    complement modulus (ofComplement modulus value) = value := by
  rw [ofComplement, complement]
  split_ifs
  · rw [Int.emod_eq_of_lt (by omega) (by omega)]
    rfl
  · have wrapped : ((value : Int) - modulus) % modulus = value := by
      rw [Int.sub_emod_right]
      exact Int.emod_eq_of_lt (by omega) (by omega)
    rw [wrapped]
    rfl

/-- `text.encode("utf-8")` -/
def utf8 (text : String) : Bytes :=
  text.toUTF8.data.toList

/-- `data.decode("utf-8")` -/
def ofUtf8? (data : Bytes) : Option String :=
  String.fromUTF8? ⟨data.toArray⟩

theorem ofUtf8?_utf8 (text : String) : ofUtf8? (utf8 text) = some text := by
  rw [ofUtf8?, utf8, Array.toArray_toList, String.fromUTF8?]
  exact dif_pos text.isValidUTF8

theorem utf8_of_ofUtf8? {data : Bytes} {text : String} (decoded : ofUtf8? data = some text) :
    utf8 text = data := by
  rw [ofUtf8?, String.fromUTF8?] at decoded
  split_ifs at decoded
  rw [← Option.some.inj decoded]
  rfl

theorem utf8_eq_nil_iff {text : String} : utf8 text = [] ↔ text = "" := by
  constructor
  · intro empty
    have decoded := ofUtf8?_utf8 text
    rw [empty] at decoded
    exact (Option.some.inj decoded).symm
  · rintro rfl
    rfl

/-- A codec that writes every value on the same number of bytes. -/
structure FixedCodec (α : Type) where
  width : Nat
  /-- The values that can be written. -/
  fits : α -> Prop
  decidable : DecidablePred fits
  encode : α -> Bytes
  decode : Bytes -> α
  length_encode : ∀ value, fits value -> (encode value).length = width
  decode_encode : ∀ value, fits value -> decode (encode value) = value
  fits_decode : ∀ data, data.length = width -> fits (decode data)
  encode_decode : ∀ data, data.length = width -> encode (decode data) = data

namespace FixedCodec

variable {α β : Type}

instance (codec : FixedCodec α) : DecidablePred codec.fits :=
  codec.decidable

/-- `struct.Struct("<n>s")`, for byte strings of the full length. -/
def raw (width : Nat) : FixedCodec Bytes where
  width := width
  fits := fun data => data.length = width
  decidable := fun _ => inferInstance
  encode := fun data => data
  decode := fun data => data
  length_encode := fun _ fits => fits
  decode_encode := fun _ _ => rfl
  fits_decode := fun _ length => length
  encode_decode := fun _ _ => rfl

def unsigned (width : Nat) : FixedCodec Nat where
  width := width
  fits := fun value => value < 256 ^ width
  decidable := fun _ => inferInstance
  encode := bigEndian width
  decode := ofBigEndian
  length_encode := fun value _ => length_bigEndian width value
  decode_encode := fun value fits => by
    rw [ofBigEndian_bigEndian, Nat.mod_eq_of_lt fits]
  fits_decode := fun data length => by
    rw [← length]
    exact ofBigEndian_lt data
  encode_decode := fun data length => by
    rw [← length]
    exact bigEndian_ofBigEndian data

def signed (width : Nat) : FixedCodec Int where
  width := width
  fits := fun value => -((256 ^ width : Nat) : Int) ≤ 2 * value ∧ 2 * value < (256 ^ width : Nat)
  decidable := fun _ => inferInstance
  encode := fun value => bigEndian width (complement (256 ^ width) value)
  decode := fun data => ofComplement (256 ^ width) (ofBigEndian data)
  length_encode := fun _ _ => length_bigEndian width _
  decode_encode := fun value fits => by
    have positive : 0 < 256 ^ width := Nat.pow_pos (by decide)
    have small : complement (256 ^ width) value < 256 ^ width := by
      have nonneg := Int.emod_nonneg value (Int.natCast_ne_zero.mpr (Nat.ne_of_gt positive))
      have below := Int.emod_lt_of_pos value (Int.natCast_pos.mpr positive)
      rw [complement]
      omega
    rw [ofBigEndian_bigEndian, Nat.mod_eq_of_lt small]
    exact ofComplement_complement fits.1 fits.2
  fits_decode := fun data length => by
    have small := ofBigEndian_lt data
    rw [length] at small
    generalize 256 ^ width = modulus at small
    rw [ofComplement]
    split_ifs <;> omega
  encode_decode := fun data length => by
    have small := ofBigEndian_lt data
    rw [length] at small
    rw [complement_ofComplement small, ← length]
    exact bigEndian_ofBigEndian data

/-- The same values with their bytes in the opposite order. -/
def reversed (codec : FixedCodec α) : FixedCodec α where
  width := codec.width
  fits := codec.fits
  decidable := codec.decidable
  encode := fun value => (codec.encode value).reverse
  decode := fun data => codec.decode data.reverse
  length_encode := fun value fits => by rw [length_reverse, codec.length_encode value fits]
  decode_encode := fun value fits => by rw [reverse_reverse, codec.decode_encode value fits]
  fits_decode := fun data length => codec.fits_decode _ (by rw [length_reverse, length])
  encode_decode := fun data length => by
    rw [codec.encode_decode _ (by rw [length_reverse, length]), reverse_reverse]

def memory (width : Nat) : FixedCodec { data : Bytes // data.length = width } where
  width := width
  fits := fun _ => True
  decidable := fun _ => inferInstance
  encode := Subtype.val
  decode := fun data =>
    if length : data.length = width then ⟨data, length⟩
    else ⟨List.replicate width 0, length_replicate⟩
  length_encode := fun value _ => value.property
  decode_encode := fun value _ => dif_pos value.property
  fits_decode := fun _ _ => trivial
  encode_decode := fun data length => by rw [dif_pos length]

def pair (first : FixedCodec α) (second : FixedCodec β) : FixedCodec (α × β) where
  width := first.width + second.width
  fits := fun value => first.fits value.1 ∧ second.fits value.2
  decidable := fun value =>
    haveI := first.decidable value.1
    haveI := second.decidable value.2
    inferInstance
  encode := fun value => first.encode value.1 ++ second.encode value.2
  decode := fun data => (first.decode (data.take first.width), second.decode (data.drop first.width))
  length_encode := fun value fits => by
    rw [length_append, first.length_encode _ fits.1, second.length_encode _ fits.2]
  decode_encode := fun value fits => by
    have front := first.length_encode _ fits.1
    rw [take_left' front, drop_left' front, first.decode_encode _ fits.1,
      second.decode_encode _ fits.2]
  fits_decode := fun data length => by
    refine ⟨first.fits_decode _ ?_, second.fits_decode _ ?_⟩
    · rw [length_take]
      omega
    · rw [length_drop]
      omega
  encode_decode := fun data length => by
    rw [first.encode_decode, second.encode_decode, take_append_drop]
    · rw [length_drop]
      omega
    · rw [length_take]
      omega

def as (codec : FixedCodec α) (toRecord : α -> β) (ofRecord : β -> α)
    (record : ∀ value, toRecord (ofRecord value) = value)
    (tuple : ∀ value, ofRecord (toRecord value) = value) : FixedCodec β where
  width := codec.width
  fits := fun value => codec.fits (ofRecord value)
  decidable := fun value => codec.decidable (ofRecord value)
  encode := fun value => codec.encode (ofRecord value)
  decode := fun data => toRecord (codec.decode data)
  length_encode := fun value fits => codec.length_encode _ fits
  decode_encode := fun value fits => by rw [codec.decode_encode _ fits, record]
  fits_decode := fun data length => by
    rw [tuple]
    exact codec.fits_decode data length
  encode_decode := fun data length => by rw [tuple, codec.encode_decode data length]

def decodeMany (codec : FixedCodec α) : Nat -> Bytes -> List α
  | 0, _ => []
  | count + 1, data => codec.decode (data.take codec.width) ::
      decodeMany codec count (data.drop codec.width)

def encodeMany (codec : FixedCodec α) (values : List α) : Bytes :=
  values.flatMap codec.encode

variable {codec : FixedCodec α}

theorem length_encodeMany {values : List α} (fits : ∀ value, value ∈ values -> codec.fits value) :
    (encodeMany codec values).length = values.length * codec.width := by
  induction values with
  | nil => rw [length_nil, Nat.zero_mul]; rfl
  | cons value rest ih =>
    rw [encodeMany, flatMap_cons, length_append,
      codec.length_encode value (fits value mem_cons_self), length_cons, Nat.succ_mul]
    have others := ih (fun other member => fits other (mem_cons_of_mem _ member))
    rw [encodeMany] at others
    rw [others, Nat.add_comm]

theorem decodeMany_encodeMany {values : List α}
    (fits : ∀ value, value ∈ values -> codec.fits value) :
    decodeMany codec values.length (encodeMany codec values) = values := by
  induction values with
  | nil => rfl
  | cons value rest ih =>
    have here := fits value mem_cons_self
    have front := codec.length_encode value here
    rw [length_cons, encodeMany, flatMap_cons, decodeMany, take_left' front,
      drop_left' front, codec.decode_encode value here]
    exact congrArg (value :: ·) (ih (fun other member => fits other (mem_cons_of_mem _ member)))

theorem length_decodeMany (count : Nat) (data : Bytes) :
    (decodeMany codec count data).length = count := by
  induction count generalizing data with
  | zero => rfl
  | succ count ih => rw [decodeMany, length_cons, ih]

theorem decodeMany_fits {count : Nat} {data : Bytes} (length : data.length = count * codec.width) :
    ∀ value, value ∈ decodeMany codec count data -> codec.fits value := by
  induction count generalizing data with
  | zero =>
    intro value member
    cases member
  | succ count ih =>
    rw [Nat.succ_mul] at length
    intro value member
    rcases mem_cons.mp member with rfl | later
    · apply codec.fits_decode
      rw [length_take]
      omega
    · refine ih ?_ value later
      rw [length_drop]
      omega

theorem encodeMany_decodeMany {count : Nat} {data : Bytes}
    (length : data.length = count * codec.width) :
    encodeMany codec (decodeMany codec count data) = data := by
  induction count generalizing data with
  | zero =>
    rw [Nat.zero_mul, length_eq_zero_iff] at length
    rw [length]
    rfl
  | succ count ih =>
    rw [Nat.succ_mul] at length
    have front : (data.take codec.width).length = codec.width := by
      rw [length_take]
      omega
    have back : (data.drop codec.width).length = count * codec.width := by
      rw [length_drop]
      omega
    have rest := ih back
    rw [encodeMany] at rest
    rw [decodeMany, encodeMany, flatMap_cons, codec.encode_decode _ front, rest, take_append_drop]

end FixedCodec

end Foundation
end ZepGpu
