import ZepGpu.Foundation.Bytes
import ZepGpu.Foundation.Dict

namespace ZepGpu
namespace Foundation

/-!
# Reading a payload field by field

A reader takes fields from the front of a payload and leaves the rest of it.
It reads a value from its encoding when it returns the value in front of every
continuation and leaves exactly this continuation.  Stated so, what one field
says is independent of its offset: there is one rule for each way to put
readers together, and no proof about a record computes a cursor.
-/

/-- The state is the part of the payload that begins at the cursor. -/
abbrev Reader (ε α : Type) : Type := StateT Bytes (Except ε) α

namespace Reader

variable {ε α κ : Type}

/-- `struct.unpack_from`, which refuses a payload that ends too early. -/
def unpack (short : ε) (codec : FixedCodec α) : Reader ε α :=
  fun data =>
    if codec.width ≤ data.length then
      .ok (codec.decode (data.take codec.width), data.drop codec.width)
    else .error short

/-- `struct.unpack_from`, for a number of values of the same format. -/
def unpackMany (short : ε) (codec : FixedCodec α) (count : Nat) : Reader ε (List α) :=
  fun data =>
    if count * codec.width ≤ data.length then
      .ok (FixedCodec.decodeMany codec count (data.take (count * codec.width)),
        data.drop (count * codec.width))
    else .error short

/-- `data[cursor : cursor + length]`, which is shorter at the end of the payload. -/
def slice (length : Nat) : Reader ε Bytes :=
  fun data => .ok (data.take length, data.drop length)

def lift (result : Except ε α) : Reader ε α :=
  fun data => result.map fun value => (value, data)

/-- A number of entries, written into a dictionary one after the other. -/
def entries [DecidableEq κ] (entry : Reader ε (κ × α)) : Nat -> Dict κ α -> Reader ε (Dict κ α)
  | 0, d => pure d
  | count + 1, d => do
      let (key, value) ← entry
      entries entry count (d.set key value)

end Reader

open Reader List

/-- The reader returns the value for these bytes, whatever follows them. -/
def Reads {ε α : Type} (reader : Reader ε α) (encoded : Bytes) (value : α) : Prop :=
  ∀ rest, reader (encoded ++ rest) = .ok (value, rest)

namespace Reads

variable {ε α β κ : Type} {short : ε} {codec : FixedCodec α} {front back encoded : Bytes}

theorem pure (value : α) : Reads (Pure.pure value : Reader ε α) [] value :=
  fun _ => rfl

theorem bind {reader : Reader ε α} {next : α -> Reader ε β} {middle : α} {value : β}
    (first : Reads reader front middle) (second : Reads (next middle) back value) :
    Reads (reader >>= next) (front ++ back) value := by
  intro rest
  change (reader (front ++ back ++ rest) >>= fun found => next found.1 found.2) = _
  rw [append_assoc, first]
  exact second rest

theorem bind_last {reader : Reader ε α} {next : α -> Reader ε β} {middle : α} {value : β}
    (first : Reads reader encoded middle) (second : Reads (next middle) [] value) :
    Reads (reader >>= next) encoded value := by
  have both := bind first second
  rwa [append_nil] at both

theorem lift {result : Except ε α} {value : α} (returns : result = .ok value) :
    Reads (Reader.lift result) [] value := by
  intro rest
  rw [returns]
  rfl

theorem bind_lift {result : Except ε α} {next : α -> Reader ε β} {middle : α} {value : β}
    (returns : result = .ok middle) (later : Reads (next middle) encoded value) :
    Reads (Reader.lift result >>= next) encoded value :=
  bind (lift returns) later

theorem unpack {value : α} (fits : codec.fits value) :
    Reads (Reader.unpack short codec) (codec.encode value) value := by
  intro rest
  have length := codec.length_encode value fits
  have room : codec.width ≤ (codec.encode value ++ rest).length := by
    rw [length_append, length]
    exact Nat.le_add_right _ _
  rw [Reader.unpack, if_pos room, take_left' length, drop_left' length,
    codec.decode_encode value fits]

theorem unpackMany {values : List α} (fits : ∀ value, value ∈ values -> codec.fits value) :
    Reads (Reader.unpackMany short codec values.length) (FixedCodec.encodeMany codec values)
      values := by
  intro rest
  have length := FixedCodec.length_encodeMany fits
  have room : values.length * codec.width ≤ (FixedCodec.encodeMany codec values ++ rest).length := by
    rw [length_append, length]
    exact Nat.le_add_right _ _
  rw [Reader.unpackMany, if_pos room, take_left' length, drop_left' length,
    FixedCodec.decodeMany_encodeMany fits]

theorem slice {length : Nat} (same : encoded.length = length) :
    Reads (Reader.slice length : Reader ε Bytes) encoded encoded := by
  intro rest
  rw [Reader.slice, take_left' same, drop_left' same]

theorem entries [DecidableEq κ] {entry : Reader ε (κ × α)} {parts : List Bytes}
    {pairs : List (κ × α)} {d : Dict κ α} (each : List.Forall₂ (Reads entry) parts pairs) :
    Reads (Reader.entries entry pairs.length d) parts.flatten (d.setAll pairs) := by
  induction each generalizing d with
  | nil => exact pure d
  | cons head _ ih => exact bind head ih

theorem returns {reader : Reader ε α} {value : α} (reads : Reads reader encoded value) :
    reader encoded = .ok (value, []) := by
  have whole := reads []
  rwa [append_nil] at whole

end Reads

end Foundation
end ZepGpu
