import ZepGpu.Foundation.Bytes

namespace ZepGpu
namespace Foundation

/-!
# SHA-256 and HMAC

The digest is computed on words that are natural numbers below `2 ^ 32`.
Nothing is proved about collisions.  The definitions run, so that a statement
over an arbitrary digest can be tried at the real one.
-/

namespace Sha256

def modulus : Nat := 4294967296

def constants : List Nat :=
  [0x428a2f98, 0x71374491, 0xb5c0fbcf, 0xe9b5dba5, 0x3956c25b, 0x59f111f1, 0x923f82a4, 0xab1c5ed5,
    0xd807aa98, 0x12835b01, 0x243185be, 0x550c7dc3, 0x72be5d74, 0x80deb1fe, 0x9bdc06a7,
    0xc19bf174, 0xe49b69c1, 0xefbe4786, 0x0fc19dc6, 0x240ca1cc, 0x2de92c6f, 0x4a7484aa,
    0x5cb0a9dc, 0x76f988da, 0x983e5152, 0xa831c66d, 0xb00327c8, 0xbf597fc7, 0xc6e00bf3,
    0xd5a79147, 0x06ca6351, 0x14292967, 0x27b70a85, 0x2e1b2138, 0x4d2c6dfc, 0x53380d13,
    0x650a7354, 0x766a0abb, 0x81c2c92e, 0x92722c85, 0xa2bfe8a1, 0xa81a664b, 0xc24b8b70,
    0xc76c51a3, 0xd192e819, 0xd6990624, 0xf40e3585, 0x106aa070, 0x19a4c116, 0x1e376c08,
    0x2748774c, 0x34b0bcb5, 0x391c0cb3, 0x4ed8aa4a, 0x5b9cca4f, 0x682e6ff3, 0x748f82ee,
    0x78a5636f, 0x84c87814, 0x8cc70208, 0x90befffa, 0xa4506ceb, 0xbef9a3f7, 0xc67178f2]

/-- The eight working variables. -/
structure Registers where
  a : Nat
  b : Nat
  c : Nat
  d : Nat
  e : Nat
  f : Nat
  g : Nat
  h : Nat

def initial : Registers :=
  ⟨0x6a09e667, 0xbb67ae85, 0x3c6ef372, 0xa54ff53a, 0x510e527f, 0x9b05688c, 0x1f83d9ab, 0x5be0cd19⟩

def rotateRight (count word : Nat) : Nat :=
  (word >>> count ||| word <<< (32 - count)) % modulus

/-- One round, on the sum of a message word and its constant. -/
def Registers.round (r : Registers) (input : Nat) : Registers :=
  let sigma := rotateRight 6 r.e ^^^ rotateRight 11 r.e ^^^ rotateRight 25 r.e
  let choice := (r.e &&& r.f) ^^^ ((modulus - 1 - r.e) &&& r.g)
  let first := r.h + sigma + choice + input
  let sigma := rotateRight 2 r.a ^^^ rotateRight 13 r.a ^^^ rotateRight 22 r.a
  let majority := (r.a &&& r.b) ^^^ (r.a &&& r.c) ^^^ (r.b &&& r.c)
  ⟨(first + sigma + majority) % modulus, r.a, r.b, r.c, (r.d + first) % modulus, r.e, r.f, r.g⟩

def schedule : Nat -> List Nat -> List Nat
  | 0, words => words
  | more + 1, words =>
    let late := words.getD 1 0
    let early := words.getD 14 0
    let late := rotateRight 17 late ^^^ rotateRight 19 late ^^^ (late >>> 10)
    let early := rotateRight 7 early ^^^ rotateRight 18 early ^^^ (early >>> 3)
    schedule more ((late + words.getD 6 0 + early + words.getD 15 0) % modulus :: words)

def words : Bytes -> List Nat
  | a :: b :: c :: d :: rest => ofBigEndian [a, b, c, d] :: words rest
  | _ => []

def compress (r : Registers) (block : Bytes) : Registers :=
  let message := (schedule 48 (words block).reverse).reverse
  let s := (List.zipWith (· + ·) constants message).foldl Registers.round r
  ⟨(r.a + s.a) % modulus, (r.b + s.b) % modulus, (r.c + s.c) % modulus, (r.d + s.d) % modulus,
    (r.e + s.e) % modulus, (r.f + s.f) % modulus, (r.g + s.g) % modulus, (r.h + s.h) % modulus⟩

def compressBlocks : Nat -> Bytes -> Registers -> Registers
  | 0, _, r => r
  | more + 1, data, r => compressBlocks more (data.drop 64) (compress r (data.take 64))

/-- The message with its padding, a whole number of blocks. -/
def padded (data : Bytes) : Bytes :=
  data ++ 128 :: (List.replicate ((119 - data.length % 64) % 64) 0 ++ bigEndian 8 (8 * data.length))

def output (r : Registers) : Bytes :=
  [r.a, r.b, r.c, r.d, r.e, r.f, r.g, r.h].flatMap (bigEndian 4)

theorem length_output (r : Registers) : (output r).length = 32 := by
  simp only [output, List.flatMap_cons, List.flatMap_nil, List.length_append, length_bigEndian,
    List.length_nil]

end Sha256

def sha256 (data : Bytes) : Bytes :=
  let message := Sha256.padded data
  Sha256.output (Sha256.compressBlocks (message.length / 64) message Sha256.initial)

theorem length_sha256 (data : Bytes) : (sha256 data).length = 32 :=
  Sha256.length_output _

example : ofBigEndian (sha256 (utf8 "abc")) =
    0xba7816bf8f01cfea414140de5dae2223b00361a396177a9cb410ff61f20015ad := by
  decide +kernel

/-- A key of at most one block, filled up with zeros. -/
def hmacKey (key : Bytes) : Bytes :=
  let short := if 64 < key.length then sha256 key else key
  short ++ List.replicate (64 - short.length) 0

def hmacSha256 (key message : Bytes) : Bytes :=
  sha256 ((hmacKey key).map (· ^^^ 0x5c) ++ sha256 ((hmacKey key).map (· ^^^ 0x36) ++ message))

/-! ## Hexadecimal text -/

def hexDigits (byte : UInt8) : List Char :=
  [Nat.digitChar (byte.toNat / 16), Nat.digitChar (byte.toNat % 16)]

/-- `data.hex()` -/
def hexText (data : Bytes) : String :=
  String.ofList (data.flatMap hexDigits)

theorem length_hexText (data : Bytes) : (hexText data).length = 2 * data.length := by
  rw [hexText, String.length_ofList]
  induction data with
  | nil => rfl
  | cons byte rest ih =>
    rw [List.flatMap_cons, List.length_append, ih, List.length_cons, hexDigits]
    simp only [List.length_cons, List.length_nil]
    omega

theorem digitChar_mem {digit : Nat} (small : digit < 16) :
    Nat.digitChar digit ∈ "0123456789abcdef".toList := by
  have all : ∀ index, index < 16 -> Nat.digitChar index ∈ "0123456789abcdef".toList := by
    decide
  exact all digit small

theorem mem_hexText {data : Bytes} {c : Char} (member : c ∈ (hexText data).toList) :
    c ∈ "0123456789abcdef".toList := by
  rw [hexText, String.toList_ofList, List.mem_flatMap] at member
  rcases member with ⟨byte, _, digit⟩
  have small : byte.toNat < 256 := byte.toNat_lt
  simp only [hexDigits, List.mem_cons, List.not_mem_nil, or_false] at digit
  rcases digit with rfl | rfl
  · exact digitChar_mem (by omega)
  · exact digitChar_mem (by omega)

example : hexText (hmacSha256 (utf8 "Jefe") (utf8 "what do ya want for nothing?")) =
    "5bdcc146bf60754e6a042426089575c75a003f089d2739839dec58b964ec3843" := by
  decide +kernel

end Foundation
end ZepGpu
