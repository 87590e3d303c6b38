import ZepGpu.Foundation.Sha256
import ZepGpu.Ledger.Reference

namespace ZepGpu
namespace Training

open Foundation

/-!
# What the training code takes from its platform

SHA-256, HMAC and the texts of UUIDs are collected in one structure, with the
documented facts on which the code relies.  As for the ledger, nothing says
that digests do not collide; a result that needs it names the two texts.
-/

abbrev Uuid := BitVec 128

/-- The exceptions of the envelopes, with their messages. -/
inductive TrainingError where
  | envelopeError (message : String)
  | checksumError (message : String)
  | scopeError (message : String)
  /-- `struct.pack` refuses a number that does not fit its field. -/
  | structError
  | diLoCoError (message : String)
  | shapeMismatchError (message : String)
  | updateIntegrityError (message : String)
  | valueError (message : String)
  | runtimeError (message : String)
  | keyError (key : String)
  | typeError (message : String)
  | attributeError (message : String)
  | indexError
  | zeroDivisionError
  /-- A statement finds no row where the code expects one. -/
  | noResultFound
  | transitionError (message : String)
  | transferConflictError (message : String)
  | duplicateTransferError (message : String)
  | syncError (message : String)
  | unicodeDecodeError
  | osError (message : String)
  /-- The Redis server refuses a command. -/
  | responseError (message : String)
  deriving DecidableEq, Repr

/-- Hashes and identifiers of the standard library, and the laws the code relies on. -/
structure Platform where
  /-- `hashlib.sha256(data).digest()` -/
  sha256 : Bytes -> Bytes
  /-- `hmac.new(key, message, hashlib.sha256).hexdigest()` -/
  hmacSha256Hex : Bytes -> Bytes -> String
  /-- `UUID(text)` -/
  uuidOfString : String -> Option Uuid
  strOfUuid : Uuid -> String
  /-- `uuid5(NAMESPACE_URL, name)` -/
  uuid5 : String -> Uuid
  sha256_length : ∀ data, (sha256 data).length = 32
  hmacSha256Hex_length : ∀ key message, (hmacSha256Hex key message).length = 64
  hmacSha256Hex_digits : ∀ key message, ∀ c, c ∈ (hmacSha256Hex key message).toList ->
    c ∈ "0123456789abcdef".toList
  uuidOfString_strOfUuid : ∀ id, uuidOfString (strOfUuid id) = some id

theorem Platform.strOfUuid_injective (P : Platform) : Function.Injective P.strOfUuid := by
  intro left right same
  have read := congrArg P.uuidOfString same
  rw [P.uuidOfString_strOfUuid, P.uuidOfString_strOfUuid] at read
  exact Option.some.inj read

/-!
## A reference platform

The digests are SHA-256 and HMAC themselves.  A name-based identifier is known for
one name only: that of the update of the first worker in the first round of the
sample run.
-/

namespace Reference

def roomId : Uuid := 0x3f2504e04f8941d39a0c0305e82c3301

def runId : Uuid := 0x9b2e7c10553a4d7e8f6612ab34cd56ef

def firstWorker : Uuid := 0x11111111111141118111111111111111

def secondWorker : Uuid := 0x22222222222242228222222222222222

def firstTransfer : Uuid := 0xfc161b5948905d66877ef7e9c0747558

def platform : Platform where
  sha256 := Foundation.sha256
  hmacSha256Hex := fun key message => hexText (hmacSha256 key message)
  uuidOfString := Ledger.Reference.uuidOfString
  strOfUuid := Ledger.Reference.strOfUuid
  uuid5 := fun _ => firstTransfer
  sha256_length := length_sha256
  hmacSha256Hex_length := fun key message => by
    rw [length_hexText, hmacSha256, length_sha256]
  hmacSha256Hex_digits := fun _ _ _ member => mem_hexText member
  uuidOfString_strOfUuid := Ledger.Reference.uuidOfString_strOfUuid

end Reference

end Training
end ZepGpu
