import ZepGpu.Foundation.Arithmetic
import ZepGpu.Foundation.Json
import ZepGpu.Foundation.Requests

namespace ZepGpu
namespace Ledger

open Foundation

/-!
# What the ledger takes from its platform

The ledger code calls SHA-256, Ed25519, the UUID and datetime parsers, and the
conversions between numbers and text.  They are collected in one structure, so
that every definition and theorem of the development holds for all of them
alike.  Its proof fields are the documented facts on which the code relies:
a hexadecimal digest has sixty-four digits, a signature made with a key
verifies under its public key, and the textual forms that the service itself
writes read back as the value they were written from.

Nothing says that digests do not collide: no function into texts of a fixed
length is injective.  Results that need it name the finitely many texts on
which collisions are excluded.

Amounts have a type of their own, `F`.  The service computes with doubles, and
what is proved of its tables holds for every arithmetic of `F`.  Where an
accounting is exact, `F` is the type of the rationals.
-/

/-- The value of a UUID column. -/
abbrev Uuid := BitVec 128

/-- The value of a timestamp column: a UTC datetime of the years 1 to 9999, in
microseconds since its first midnight. -/
abbrev Instant := Fin 315537897600000000

instance Instant.neZero : NeZero 315537897600000000 :=
  ⟨by decide⟩

/-- A Python dictionary with string keys. -/
abbrev Dict := List (String × Json)

/-- The exceptions raised by the modelled code and by the database below it. -/
inductive PyError where
  | ledgerValidationError (message : String)
  | valueError (message : String)
  | typeError (message : String)
  | overflowError (message : String)
  | indexError (message : String)
  | keyError (key : String)
  | attributeError (message : String)
  /-- A primary key or a unique constraint refuses the row. -/
  | integrityError (constraint : String)
  /-- A value does not fit its column. -/
  | dataError (column : String)
  deriving DecidableEq, Repr

def IsHexDigest (text : String) : Prop :=
  text.length = 64 ∧ ∀ c, c ∈ text.toList -> c ∈ "0123456789abcdef".toList

/-- Hashes, signatures, texts of floats and times, and the laws the code relies on. -/
structure Platform (F : Type) [Arithmetic F] where
  /-- `hashlib.sha256(data).hexdigest()` -/
  sha256Hex : String -> String
  publicKeyFromPrivate : String -> String
  deriveKeypairFromSeed : String -> String × String
  signMessage : String -> String -> String
  verifySignature : String -> String -> String -> Bool
  /-- The text of a float, as `json.dumps` and `str` write it. -/
  reprFloat : F -> String
  /-- `float(text)` -/
  floatOfString : String -> Option F
  /-- `int(text)` -/
  intOfString : String -> Option Int
  /-- `str(value)` of a value that is not a string. -/
  strOfJson : Json -> String
  /-- `UUID(text)` -/
  uuidOfString : String -> Option Uuid
  strOfUuid : Uuid -> String
  /-- `datetime.fromisoformat(text)` as a timestamp column takes it: `none` when
  the text is malformed or has no offset. -/
  fromisoformat : String -> Option Instant
  /-- The ISO text of a datetime in UTC. -/
  isoformat : Instant -> String
  sha256Hex_isHex : ∀ data, IsHexDigest (sha256Hex data)
  derived_public : ∀ seed,
    (deriveKeypairFromSeed seed).2 = publicKeyFromPrivate (deriveKeypairFromSeed seed).1
  verify_sign : ∀ key message,
    verifySignature (publicKeyFromPrivate key) message (signMessage key message) = true
  publicKey_length : ∀ key, (publicKeyFromPrivate key).length = 44
  signature_length : ∀ key message, (signMessage key message).length = 88
  reprFloat_no_comma : ∀ value, ',' ∉ (reprFloat value).toList
  strOfUuid_length : ∀ id, (strOfUuid id).length = 36
  uuidOfString_strOfUuid : ∀ id, uuidOfString (strOfUuid id) = some id
  fromisoformat_isoformat : ∀ time, fromisoformat (isoformat time) = some time
  isoformat_no_zulu : ∀ time, 'Z' ∉ (isoformat time).toList

namespace Platform

variable {F : Type} [Arithmetic F] (P : Platform F)

/-- The text of a float in a JSON value. -/
def reprNumber (value : Rat) : String :=
  P.reprFloat (Arithmetic.ofRat value)

/-- Serialize with sorted keys, no blanks and ASCII output. -/
def canonicalJson (value : Json) : String :=
  String.ofList (value.encode P.reprNumber)

/-- `str(value)` -/
def str : Json -> String
  | .str text => text
  | value => P.strOfJson value

/-- `float(value)`.  An integer fails when it rounds beyond the largest
double. -/
def float : Json -> Except PyError F
  | .int value =>
    if value.natAbs < 2 ^ 1024 - 2 ^ 970 then .ok (Arithmetic.ofRat value)
    else .error (.overflowError "int too large to convert to float")
  | .float value => .ok (Arithmetic.ofRat value)
  | .bool value => .ok (if value then Arithmetic.ofRat 1 else 0)
  | .str text =>
    match P.floatOfString text with
    | some value => .ok value
    | none => .error (.valueError "could not convert string to float")
  | _ => .error (.typeError "float() argument must be a string or a real number")

/-- `int(value)`.  A float is cut towards zero. -/
def int : Json -> Except PyError Int
  | .int value => .ok value
  | .float value => .ok (value.num.tdiv value.den)
  | .bool value => .ok (if value then 1 else 0)
  | .str text =>
    match P.intOfString text with
    | some value => .ok value
    | none => .error (.valueError "invalid literal for int() with base 10")
  | _ => .error (.typeError "int() argument must be a string or a real number")

/-- `_parse_ts` on a string: a zone suffix `Z` is read as a zero offset. -/
def parseTs (text : String) : Except PyError Instant :=
  match P.fromisoformat (String.ofList
      (text.toList.flatMap (fun c => if c = 'Z' then "+00:00".toList else [c]))) with
  | some time => .ok time
  | none => .error (.valueError "Invalid isoformat string")

def asUuid (text : String) : Except PyError Uuid :=
  match P.uuidOfString text with
  | some id => .ok id
  | none => .error (.valueError "badly formed hexadecimal UUID string")

theorem asUuid_strOfUuid (id : Uuid) : P.asUuid (P.strOfUuid id) = .ok id := by
  rw [asUuid, P.uuidOfString_strOfUuid]

theorem parseTs_isoformat (time : Instant) : P.parseTs (P.isoformat time) = .ok time := by
  have untouched : ∀ text : List Char, 'Z' ∉ text ->
      text.flatMap (fun c => if c = 'Z' then "+00:00".toList else [c]) = text := by
    intro text
    induction text with
    | nil => intro _; rfl
    | cons c rest ih =>
      intro free
      rw [List.mem_cons, not_or] at free
      rw [List.flatMap_cons, if_neg (Ne.symm free.1), ih free.2]
      rfl
  rw [parseTs, untouched _ (P.isoformat_no_zulu time), String.ofList_toList,
    P.fromisoformat_isoformat]

theorem publicKey_ne_empty (key : String) : P.publicKeyFromPrivate key ≠ "" := by
  intro empty
  have size := P.publicKey_length key
  rw [empty] at size
  exact absurd size (by decide)

theorem signature_ne_empty (key message : String) : P.signMessage key message ≠ "" := by
  intro empty
  have size := P.signature_length key message
  rw [empty] at size
  exact absurd size (by decide)

theorem strOfUuid_ne_empty (id : Uuid) : P.strOfUuid id ≠ "" := by
  intro empty
  have size := P.strOfUuid_length id
  rw [empty] at size
  exact absurd size (by decide)

end Platform

/-- `payload.get(key)` -/
def Dict.get? (payload : Dict) (key : String) : Option Json :=
  (payload.find? (fun field => field.1 = key)).map Prod.snd

/-- `payload.get(key) or default` -/
def Dict.getOr (payload : Dict) (key : String) (default : Json) : Json :=
  match payload.get? key with
  | some value => if value.truthy then value else default
  | none => default

end Ledger
end ZepGpu
