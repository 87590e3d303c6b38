import ZepGpu.Foundation.Json
import ZepGpu.Foundation.Requests

namespace ZepGpu
namespace Foundation

/-!
# The parts of a JSON text

Blanks, string literals and the parts of a number, each read from the front of
a text together with what follows it.  A string that names half of a surrogate
pair is refused: it is no text, and whoever looks at it as one has to refuse it.
-/

namespace Json

/-- Why a text is not read as one JSON value. -/
inductive ReadError where
  | malformed
  | duplicateField
  | invalidConstant (name : String)
  | loneSurrogate
  deriving DecidableEq, Repr

def isBlank (c : Char) : Bool :=
  c = ' ' || c = '\t' || c = '\n' || c = '\r'

def skipBlanks : List Char -> List Char
  | [] => []
  | c :: rest => if isBlank c then skipBlanks rest else c :: rest

def hexDigit? (c : Char) : Option Nat :=
  if '0' ≤ c ∧ c ≤ '9' then some (c.toNat - 48)
  else if 'a' ≤ c ∧ c ≤ 'f' then some (c.toNat - 87)
  else if 'A' ≤ c ∧ c ≤ 'F' then some (c.toNat - 55)
  else none

def code? (first second third fourth : Char) : Option Nat := do
  let a ← hexDigit? first
  let b ← hexDigit? second
  let c ← hexDigit? third
  let d ← hexDigit? fourth
  some (((a * 16 + b) * 16 + c) * 16 + d)

def isHighSurrogate (code : Nat) : Bool :=
  55296 ≤ code && code ≤ 56319

def isLowSurrogate (code : Nat) : Bool :=
  56320 ≤ code && code ≤ 57343

/-- The character after a backslash, but for the escapes with a code. -/
def simpleEscape? (c : Char) : Option Char :=
  if c = '"' ∨ c = '\\' ∨ c = '/' then some c
  else if c = 'b' then some (Char.ofNat 8)
  else if c = 'f' then some (Char.ofNat 12)
  else if c = 'n' then some '\n'
  else if c = 'r' then some '\r'
  else if c = 't' then some '\t'
  else none

/-- A string literal from after its opening quotation mark. -/
def readString (read : List Char) : List Char -> Except ReadError (String × List Char)
  | [] => .error .malformed
  | '"' :: rest => .ok (String.ofList read.reverse, rest)
  | '\\' :: 'u' :: a :: b :: c :: d :: '\\' :: 'u' :: e :: f :: g :: h :: rest =>
    match code? a b c d, code? e f g h with
    | some high, some low =>
      if isHighSurrogate high && isLowSurrogate low then
        readString (Char.ofNat (65536 + (high - 55296) * 1024 + (low - 56320)) :: read) rest
      else if isHighSurrogate high || isLowSurrogate high then .error .loneSurrogate
      else readString (Char.ofNat high :: read) ('\\' :: 'u' :: e :: f :: g :: h :: rest)
    | _, _ => .error .malformed
  | '\\' :: 'u' :: a :: b :: c :: d :: rest =>
    match code? a b c d with
    | some code =>
      if isHighSurrogate code || isLowSurrogate code then .error .loneSurrogate
      else readString (Char.ofNat code :: read) rest
    | none => .error .malformed
  | '\\' :: c :: rest =>
    match simpleEscape? c with
    | some plain => readString (plain :: read) rest
    | none => .error .malformed
  | c :: rest =>
    if c = '\\' ∨ c.toNat < 32 then .error .malformed
    else readString (c :: read) rest

def isAsciiDigit (c : Char) : Bool :=
  '0' ≤ c && c ≤ '9'

def digitsValue (digits : List Char) : Nat :=
  digits.foldl (fun value c => value * 10 + (c.toNat - 48)) 0

def readExponent (text : List Char) : Option Int × List Char :=
  match text with
  | mark :: rest =>
    if mark = 'e' ∨ mark = 'E' then
      let negative := rest.head? = some '-'
      let unsigned := if negative ∨ rest.head? = some '+' then rest.tail else rest
      let digits := unsigned.takeWhile isAsciiDigit
      if digits = [] then (none, text)
      else
        let value : Int := digitsValue digits
        (some (if negative then -value else value), unsigned.dropWhile isAsciiDigit)
    else (none, text)
  | [] => (none, text)

/-- The digits after the point of a number, and what follows them. -/
def readFraction (text : List Char) : List Char × List Char :=
  match text with
  | '.' :: rest =>
    let digits := rest.takeWhile isAsciiDigit
    if digits = [] then ([], text) else (digits, rest.dropWhile isAsciiDigit)
  | _ => ([], text)

end Json

end Foundation
end ZepGpu
