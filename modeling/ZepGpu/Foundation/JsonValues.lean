import ZepGpu.Foundation.JsonReader

namespace ZepGpu
namespace Foundation

/-!
# JSON values over the floats of a platform

Whoever reads a text back and compares what was written needs the float itself:
its shortest text is the exact value of no rational that a reader could name.
The values here are therefore over the type of the floats, with the writer and
the reader of a literal as parameters.

The reader takes the text from its first character, without leading blanks, and
gives back what follows the value.  An object with a repeated key is refused
when its brace closes, and so are the constants that JSON does not have.

The writer keeps characters outside ASCII and puts no blanks.  Sorting by the
keys is a step of its own, so that what is written can be compared with what
is read.
-/

namespace Json

/-- The parts of a number with a fraction or an exponent. -/
structure FloatLiteral where
  negative : Bool
  whole : List Char
  fraction : List Char
  /-- The sign of the exponent and its digits. -/
  exponent : Option (List Char × List Char)
  whole_ne_nil : whole ≠ []
  whole_digits : ∀ c, c ∈ whole -> isAsciiDigit c = true
  leading_zero : whole.head? = some '0' -> whole = ['0']
  fraction_digits : ∀ c, c ∈ fraction -> isAsciiDigit c = true
  exponent_sign : ∀ sign digits, exponent = some (sign, digits) ->
    sign = [] ∨ sign = ['+'] ∨ sign = ['-']
  exponent_digits : ∀ sign digits, exponent = some (sign, digits) ->
    digits ≠ [] ∧ ∀ c, c ∈ digits -> isAsciiDigit c = true
  not_integer : fraction ≠ [] ∨ exponent ≠ none

def signText (negative : Bool) : List Char :=
  if negative then ['-'] else []

def exponentText : Option (List Char × List Char) -> List Char
  | none => []
  | some (sign, digits) => 'e' :: (sign ++ digits)

def fractionText (fraction : List Char) : List Char :=
  if fraction = [] then [] else '.' :: fraction

def FloatLiteral.text (literal : FloatLiteral) : List Char :=
  signText literal.negative ++ (literal.whole ++
    (fractionText literal.fraction ++ exponentText literal.exponent))

/-- The floats of a platform.  A finite float is read back from its own
text. -/
structure Floats (F : Type) where
  /-- The value of a float, `none` for what is no number and the infinities. -/
  value : F -> Option Rat
  /-- The text of a float, as `float.__repr__` gives it. -/
  repr : F -> List Char
  /-- The float nearest to a literal. -/
  ofLiteral : List Char -> F
  /-- The float of an integer. -/
  ofInt : Int -> F
  value_ofInt : ∀ n : Int, n.natAbs ≤ 2 ^ 53 -> value (ofInt n) = some n
  repr_literal : ∀ x, (value x).isSome = true ->
    ∃ literal : FloatLiteral, literal.text = repr x
  ofLiteral_repr : ∀ x, (value x).isSome = true -> ofLiteral (repr x) = x

/-- A JSON value whose floats are of any type. -/
inductive Value (F : Type) where
  | null
  | bool (value : Bool)
  | int (value : Int)
  | float (value : F)
  | str (value : String)
  | arr (items : List (Value F))
  | obj (fields : List (String × Value F))

variable {F : Type} (floats : Floats F)

/-- One character of a string literal that keeps what is not ASCII. -/
def plainEscape (c : Char) : List Char :=
  if c = '"' then ['\\', '"']
  else if c = '\\' then ['\\', '\\']
  else if c = '\n' then ['\\', 'n']
  else if c = '\r' then ['\\', 'r']
  else if c = '\t' then ['\\', 't']
  else if c.toNat = 8 then ['\\', 'b']
  else if c.toNat = 12 then ['\\', 'f']
  else if c.toNat < 32 then ['\\', 'u'] ++ hex4 c.toNat
  else [c]

def plainQuoted (text : String) : List Char :=
  '"' :: (text.toList.flatMap plainEscape ++ ['"'])

mutual

/-- The compact text of a value, with its fields as they stand. -/
def text : Value F -> List Char
  | .null => ['n', 'u', 'l', 'l']
  | .bool true => ['t', 'r', 'u', 'e']
  | .bool false => ['f', 'a', 'l', 's', 'e']
  | .int value => (toString value).toList
  | .float value => floats.repr value
  | .str value => plainQuoted value
  | .arr [] => ['[', ']']
  | .arr (item :: rest) => '[' :: (text item ++ (itemsText rest ++ [']']))
  | .obj [] => ['{', '}']
  | .obj ((key, value) :: rest) =>
    '{' :: (plainQuoted key ++ ':' :: (text value ++ (fieldsText rest ++ ['}'])))

def itemsText : List (Value F) -> List Char
  | [] => []
  | item :: rest => ',' :: (text item ++ itemsText rest)

def fieldsText : List (String × Value F) -> List Char
  | [] => []
  | (key, value) :: rest => ',' :: (plainQuoted key ++ ':' :: (text value ++ fieldsText rest))

end

mutual

/-- Whether the writer takes a value: its floats are finite and its integers
have at most 4300 digits. -/
def writable : Value F -> Bool
  | .float value => (floats.value value).isSome
  | .int value => (Nat.toDigits 10 value.natAbs).length ≤ 4300
  | .arr items => writableItems items
  | .obj fields => writableFields fields
  | .null => true
  | .bool _ => true
  | .str _ => true

def writableItems : List (Value F) -> Bool
  | [] => true
  | item :: rest => writable item && writableItems rest

def writableFields : List (String × Value F) -> Bool
  | [] => true
  | (_, value) :: rest => writable value && writableFields rest

end

mutual

def distinctKeys : Value F -> Prop
  | .arr items => distinctItems items
  | .obj fields => (fields.map Prod.fst).Nodup ∧ distinctFields fields
  | .null => True
  | .bool _ => True
  | .int _ => True
  | .float _ => True
  | .str _ => True

def distinctItems : List (Value F) -> Prop
  | [] => True
  | item :: rest => distinctKeys item ∧ distinctItems rest

def distinctFields : List (String × Value F) -> Prop
  | [] => True
  | (_, value) :: rest => distinctKeys value ∧ distinctFields rest

end

mutual

/-- The value with the fields of every object in the order of their keys. -/
def sorted : Value F -> Value F
  | .arr items => .arr (sortedItems items)
  | .obj fields =>
    .obj ((sortedFields fields).insertionSort (fun left right => left.1 ≤ right.1))
  | .null => .null
  | .bool value => .bool value
  | .int value => .int value
  | .float value => .float value
  | .str value => .str value

def sortedItems : List (Value F) -> List (Value F)
  | [] => []
  | item :: rest => sorted item :: sortedItems rest

def sortedFields : List (String × Value F) -> List (String × Value F)
  | [] => []
  | (key, value) :: rest => (key, sorted value) :: sortedFields rest

end

mutual

def depth : Value F -> Nat
  | .arr items => 1 + itemsDepth items
  | .obj fields => 1 + fieldsDepth fields
  | .null => 0
  | .bool _ => 0
  | .int _ => 0
  | .float _ => 0
  | .str _ => 0

def itemsDepth : List (Value F) -> Nat
  | [] => 0
  | item :: rest => max (depth item) (itemsDepth rest)

def fieldsDepth : List (String × Value F) -> Nat
  | [] => 0
  | (_, value) :: rest => max (depth value) (fieldsDepth rest)

end

def sortFields (fields : List (String × Value F)) : List (String × Value F) :=
  (sortedFields fields).insertionSort (fun left right => left.1 ≤ right.1)

/-- `payload.get(key)` -/
def lookup (fields : List (String × Value F)) (key : String) : Option (Value F) :=
  (fields.find? (fun field => field.1 = key)).map Prod.snd

/-- A number from after its whole part; `text` is all of it. -/
def readRest (negative : Bool) (whole text rest : List Char) :
    Except ReadError (Value F × List Char) :=
  let (fraction, rest) := readFraction rest
  let (exponent, rest) := readExponent rest
  if fraction = [] ∧ exponent = none then
    if 4300 < whole.length then .error .malformed
    else
      let value : Int := digitsValue whole
      .ok (.int (if negative then -value else value), rest)
  else .ok (.float (floats.ofLiteral (text.take (text.length - rest.length))), rest)

/-- A number.  The reader of integers takes at most 4300 digits. -/
def readNumber (text : List Char) : Except ReadError (Value F × List Char) :=
  let negative := text.head? = some '-'
  let unsigned := if negative then text.tail else text
  let digits := unsigned.takeWhile isAsciiDigit
  let whole := if digits.head? = some '0' then ['0'] else digits
  if whole = [] then .error .malformed
  else readRest floats negative whole text (unsigned.drop whole.length)

def readWord (text : List Char) : Except ReadError (Value F × List Char) :=
  if ['n', 'u', 'l', 'l'].isPrefixOf text then .ok (.null, text.drop 4)
  else if ['t', 'r', 'u', 'e'].isPrefixOf text then .ok (.bool true, text.drop 4)
  else if ['f', 'a', 'l', 's', 'e'].isPrefixOf text then .ok (.bool false, text.drop 5)
  else if "NaN".toList.isPrefixOf text then .error (.invalidConstant "NaN")
  else if "Infinity".toList.isPrefixOf text then .error (.invalidConstant "Infinity")
  else if "-Infinity".toList.isPrefixOf text then .error (.invalidConstant "-Infinity")
  else readNumber floats text

/-- What the reader is in the middle of, with what it has read, last first. -/
inductive Part (F : Type) where
  | value
  | items (read : List (Value F))
  | fields (read : List (String × Value F))

/-- Read on.  The first argument bounds the number of nested and repeated
steps. -/
def readPart : Nat -> Part F -> List Char -> Except ReadError (Value F × List Char)
  | 0, _, _ => .error .malformed
  | fuel + 1, .value, text =>
    match text with
    | '"' :: rest => (readString [] rest).map (fun read => (.str read.1, read.2))
    | '{' :: rest =>
      match skipBlanks rest with
      | '}' :: rest => .ok (.obj [], rest)
      | rest => readPart fuel (.fields []) rest
    | '[' :: rest =>
      match skipBlanks rest with
      | ']' :: rest => .ok (.arr [], rest)
      | rest => readPart fuel (.items []) rest
    | _ => readWord floats text
  | fuel + 1, .items read, text => do
      let (item, rest) ← readPart fuel .value text
      match skipBlanks rest with
      | ',' :: rest => readPart fuel (.items (item :: read)) (skipBlanks rest)
      | ']' :: rest => .ok (.arr (item :: read).reverse, rest)
      | _ => .error .malformed
  | fuel + 1, .fields read, text =>
    match text with
    | '"' :: rest => do
        let (key, rest) ← readString [] rest
        match skipBlanks rest with
        | ':' :: rest => do
            let (value, rest) ← readPart fuel .value (skipBlanks rest)
            let fields := (key, value) :: read
            match skipBlanks rest with
            | ',' :: rest => readPart fuel (.fields fields) (skipBlanks rest)
            | '}' :: rest =>
              if (fields.map Prod.fst).Nodup then .ok (.obj fields.reverse, rest)
              else .error .duplicateField
            | _ => .error .malformed
        | _ => .error .malformed
    | _ => .error .malformed

/-- `raw_decode(text)`.  A step of the reader that takes no character is
followed by one that does. -/
def rawDecodeValue (text : List Char) : Except ReadError (Value F × List Char) :=
  readPart floats (2 * text.length + 2) .value text

end Json

end Foundation
end ZepGpu
