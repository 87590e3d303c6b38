import Mathlib.Data.List.Sort
import Mathlib.Data.Rat.Defs
import Mathlib.Tactic.IntervalCases
import ZepGpu.Foundation.Text

namespace ZepGpu
namespace Foundation

open List

/-!
# JSON values and their canonical text

The text written here is that of a compact JSON writer with sorted keys and
an ASCII-only output: no blanks, object fields in code-point order of their
keys, and every character outside the printable ASCII range escaped.  The
writer is total on the values below, so a digest of the text is a function of
the value alone.

Numbers keep the distinction between integers and floating values, because
the two are written differently.  Floating values are exact rationals.  Their
shortest decimal text is a parameter of the writer and nothing is assumed of
it here.

The second half proves what a commitment to the text needs: an escaped string
can be read off the front of a longer text in exactly one way.
-/

/-- A JSON value.  Object fields keep the order in which they were written;
the canonical text does not depend on it. -/
inductive Json where
  | null
  | bool (value : Bool)
  | int (value : Int)
  | float (value : Rat)
  | str (value : String)
  | arr (items : List Json)
  | obj (fields : List (String × Json))

namespace Json

/-- Four lower-case hexadecimal digits, most significant first. -/
def hex4 (code : Nat) : List Char :=
  [Nat.digitChar (code / 4096 % 16), Nat.digitChar (code / 256 % 16),
    Nat.digitChar (code / 16 % 16), Nat.digitChar (code % 16)]

/-- The text of one character inside a string literal.  A character beyond
the basic plane is written as a surrogate pair. -/
def escapeChar (c : Char) : List Char :=
  if c = '"' then ['\\', '"']
  else if c = '\\' then ['\\', '\\']
  else if c = '\n' then ['\\', 'n']
  else if c = '\r' then ['\\', 'r']
  else if c = '\t' then ['\\', 't']
  else if c.toNat = 8 then ['\\', 'b']
  else if c.toNat = 12 then ['\\', 'f']
  else if 32 ≤ c.toNat ∧ c.toNat ≤ 126 then [c]
  else if c.toNat < 65536 then ['\\', 'u'] ++ hex4 c.toNat
  else
    ['\\', 'u'] ++ hex4 (55296 + (c.toNat - 65536) / 1024) ++
      (['\\', 'u'] ++ hex4 (56320 + (c.toNat - 65536) % 1024))

def escape (text : List Char) : List Char :=
  text.flatMap escapeChar

def quoted (text : String) : List Char :=
  '"' :: (escape text.toList ++ ['"'])

def commaSeparated : List (List Char) -> List Char
  | [] => []
  | [text] => text
  | text :: next :: rest => text ++ ',' :: commaSeparated (next :: rest)

mutual

def encode (reprFloat : Rat -> String) : Json -> List Char
  | .null => ['n', 'u', 'l', 'l']
  | .bool true => ['t', 'r', 'u', 'e']
  | .bool false => ['f', 'a', 'l', 's', 'e']
  | .int value => (toString value).toList
  | .float value => (reprFloat value).toList
  | .str value => quoted value
  | .arr items => '[' :: (commaSeparated (encodeItems reprFloat items) ++ [']'])
  | .obj fields =>
    '{' :: (commaSeparated
      (((encodeFields reprFloat fields).insertionSort
          (fun left right => left.1 ≤ right.1)).map
        (fun field => quoted field.1 ++ ':' :: field.2)) ++ ['}'])

def encodeItems (reprFloat : Rat -> String) : List Json -> List (List Char)
  | [] => []
  | item :: rest => encode reprFloat item :: encodeItems reprFloat rest

def encodeFields (reprFloat : Rat -> String) :
    List (String × Json) -> List (String × List Char)
  | [] => []
  | (key, value) :: rest => (key, encode reprFloat value) :: encodeFields reprFloat rest

end

/-- The value of a key, `none` when the value is not an object or lacks it. -/
def get? (value : Json) (key : String) : Option Json :=
  match value with
  | .obj fields => (fields.find? (fun field => field.1 = key)).map Prod.snd
  | _ => none

/-- Truth of a value as a condition: `null`, `false`, zero and the empty
string, list and object are false. -/
def truthy : Json -> Bool
  | .null => false
  | .bool value => value
  | .int value => decide (value ≠ 0)
  | .float value => decide (value ≠ 0)
  | .str value => decide (value ≠ "")
  | .arr items => !items.isEmpty
  | .obj fields => !fields.isEmpty

/-- The number a value stands for in a comparison. -/
def number? : Json -> Option Rat
  | .bool value => some (if value then 1 else 0)
  | .int value => some value
  | .float value => some value
  | _ => none

mutual

/-- Equality as a dynamic language compares parsed values: numbers by value,
lists item by item, and objects by their keys. -/
def same : Json -> Json -> Bool
  | .null, .null => true
  | .str left, .str right => decide (left = right)
  | .arr left, .arr right => sameItems left right
  | .obj left, .obj right => left.length = right.length && sameFields left right
  | .bool left, right => decide (right.number? = some (if left then 1 else 0))
  | .int left, right => decide (right.number? = some (left : Rat))
  | .float left, right => decide (right.number? = some left)
  | _, _ => false

def sameItems : List Json -> List Json -> Bool
  | [], [] => true
  | left :: lefts, right :: rights => same left right && sameItems lefts rights
  | _, _ => false

def sameFields : List (String × Json) -> List (String × Json) -> Bool
  | [], _ => true
  | (key, left) :: lefts, rights =>
    (match (rights.find? (fun field => field.1 = key)).map Prod.snd with
      | some right => same left right
      | none => false) && sameFields lefts rights

end

theorem same_str_iff {left : String} {right : Json} :
    same (.str left) right = true ↔ right = .str left := by
  cases right with
  | str right =>
    rw [same, decide_eq_true_iff, Json.str.injEq]
    exact eq_comm
  | _ => simp [same]

mutual

/-- The keys of every object in the value are distinct. -/
def keyed : Json -> Bool
  | .obj fields => decide (fields.map Prod.fst).Nodup && keyedFields fields
  | .arr items => keyedItems items
  | _ => true

def keyedItems : List Json -> Bool
  | [] => true
  | item :: rest => keyed item && keyedItems rest

def keyedFields : List (String × Json) -> Bool
  | [] => true
  | (_, value) :: rest => keyed value && keyedFields rest

end

theorem find?_of_nodup {fields : List (String × Json)} (distinct : (fields.map Prod.fst).Nodup)
    {field : String × Json} (member : field ∈ fields) :
    fields.find? (fun other => other.1 = field.1) = some field := by
  induction fields with
  | nil => cases member
  | cons first rest ih =>
    rw [map_cons, nodup_cons] at distinct
    rw [find?_cons]
    rcases mem_cons.mp member with rfl | later
    · simp
    · have different : first.1 ≠ field.1 := by
        intro same
        exact distinct.1 (same ▸ mem_map_of_mem later)
      simp only [different, decide_false]
      exact ih distinct.2 later

mutual

theorem same_self : ∀ value : Json, value.keyed = true -> value.same value = true
  | .null, _ => by rw [same]
  | .bool value, _ => by simp [same, number?]
  | .int value, _ => by simp [same, number?]
  | .float value, _ => by simp [same, number?]
  | .str value, _ => by simp [same]
  | .arr items, keyed => by
      rw [Json.keyed] at keyed
      rw [same]
      exact sameItems_self items keyed
  | .obj fields, keyed => by
      rw [Json.keyed, Bool.and_eq_true, decide_eq_true_eq] at keyed
      rw [same]
      simp only [decide_true, Bool.true_and]
      exact sameFields_self fields fields keyed.2 (fun _ member => find?_of_nodup keyed.1 member)

theorem sameItems_self : ∀ items : List Json, keyedItems items = true ->
    sameItems items items = true
  | [], _ => by rw [sameItems]
  | item :: rest, keyed => by
      rw [keyedItems, Bool.and_eq_true] at keyed
      rw [sameItems, Bool.and_eq_true]
      exact ⟨same_self item keyed.1, sameItems_self rest keyed.2⟩

theorem sameFields_self : ∀ lefts rights : List (String × Json), keyedFields lefts = true ->
    (∀ field, field ∈ lefts -> rights.find? (fun other => other.1 = field.1) = some field) ->
    sameFields lefts rights = true
  | [], rights, _, _ => by rw [sameFields]
  | (key, value) :: rest, rights, keyed, found => by
      rw [keyedFields, Bool.and_eq_true] at keyed
      rw [sameFields, found (key, value) (mem_cons_self ..), Option.map_some, Bool.and_eq_true]
      exact ⟨same_self value keyed.1, sameFields_self rest rights keyed.2
        (fun field member => found field (mem_cons_of_mem _ member))⟩

end

theorem forall_of_all {text : List Char} {good : Char -> Prop} [DecidablePred good]
    (checked : text.all (fun c => decide (good c)) = true) : ∀ c, c ∈ text -> good c :=
  fun c member => of_decide_eq_true (all_eq_true.mp checked c member)

def hexValue (c : Char) : Nat :=
  if c.toNat < 58 then c.toNat - 48 else c.toNat - 87

def hex4Value (first second third fourth : Char) : Nat :=
  hexValue first * 4096 + hexValue second * 256 + hexValue third * 16 + hexValue fourth

/-- Read the first character of the body of a string literal. -/
def readChar : List Char -> Option (Char × List Char)
  | '\\' :: 'u' :: a :: b :: c :: d :: rest =>
    if 55296 ≤ hex4Value a b c d ∧ hex4Value a b c d < 56320 then
      match rest with
      | '\\' :: 'u' :: e :: f :: g :: h :: rest =>
        some (Char.ofNat (65536 + (hex4Value a b c d - 55296) * 1024 +
          (hex4Value e f g h - 56320)), rest)
      | _ => none
    else some (Char.ofNat (hex4Value a b c d), rest)
  | '\\' :: 'n' :: rest => some ('\n', rest)
  | '\\' :: 'r' :: rest => some ('\r', rest)
  | '\\' :: 't' :: rest => some ('\t', rest)
  | '\\' :: 'b' :: rest => some (Char.ofNat 8, rest)
  | '\\' :: 'f' :: rest => some (Char.ofNat 12, rest)
  | '\\' :: c :: rest => some (c, rest)
  | c :: rest => some (c, rest)
  | [] => none

theorem hexValue_digitChar (digit : Nat) (small : digit < 16) :
    hexValue (Nat.digitChar digit) = digit := by
  interval_cases digit <;> decide

theorem hex4Value_hex4 (code : Nat) (small : code < 65536) :
    hex4Value (Nat.digitChar (code / 4096 % 16)) (Nat.digitChar (code / 256 % 16))
      (Nat.digitChar (code / 16 % 16)) (Nat.digitChar (code % 16)) = code := by
  simp only [hex4Value]
  rw [hexValue_digitChar _ (Nat.mod_lt _ (by decide)), hexValue_digitChar _ (Nat.mod_lt _ (by decide)),
    hexValue_digitChar _ (Nat.mod_lt _ (by decide)), hexValue_digitChar _ (Nat.mod_lt _ (by decide))]
  omega

theorem char_eq_ofNat {c : Char} {code : Nat} (same : c.toNat = code) : Char.ofNat code = c := by
  rw [← same]
  exact Char.ofNat_toNat c

theorem toNat_not_surrogate (c : Char) : c.toNat < 55296 ∨ 57343 < c.toNat ∧ c.toNat < 1114112 :=
  c.valid

theorem readChar_plain (c : Char) (rest : List Char) (notEscape : c ≠ '\\') :
    readChar (c :: rest) = some (c, rest) := by
  unfold readChar
  split <;> simp_all

theorem readChar_escapeChar (c : Char) (rest : List Char) :
    readChar (escapeChar c ++ rest) = some (c, rest) := by
  have valid := toNat_not_surrogate c
  unfold escapeChar
  split_ifs with quote slash newline return_ tab backspace feed plain basic
  · subst quote; rfl
  · subst slash; rfl
  · subst newline; rfl
  · subst return_; rfl
  · subst tab; rfl
  · rw [← char_eq_ofNat backspace]; rfl
  · rw [← char_eq_ofNat feed]; rfl
  · exact readChar_plain c rest slash
  · simp only [hex4, cons_append, nil_append, readChar]
    rw [hex4Value_hex4 c.toNat basic, if_neg (by omega), char_eq_ofNat rfl]
  · simp only [hex4, cons_append, nil_append, readChar]
    rw [hex4Value_hex4 _ (by omega), hex4Value_hex4 _ (by omega), if_pos (by omega)]
    rw [char_eq_ofNat (c := c) (by omega)]

theorem escapeChar_head_ne_quote (c : Char) (rest tail : List Char) :
    escapeChar c ++ rest ≠ '"' :: tail := by
  unfold escapeChar
  split_ifs <;> simp_all

theorem escape_quote_inj (left right : List Char) (leftRest rightRest : List Char)
    (same : escape left ++ '"' :: leftRest = escape right ++ '"' :: rightRest) :
    left = right ∧ leftRest = rightRest := by
  induction left generalizing right with
  | nil =>
    cases right with
    | nil =>
      simp only [escape, flatMap_nil, nil_append, List.cons.injEq, true_and] at same
      exact ⟨rfl, same⟩
    | cons c right =>
      simp only [escape, flatMap_nil, nil_append, flatMap_cons, append_assoc] at same
      exact absurd same.symm (escapeChar_head_ne_quote c _ _)
  | cons c left ih =>
    cases right with
    | nil =>
      simp only [escape, flatMap_nil, nil_append, flatMap_cons, append_assoc] at same
      exact absurd same (escapeChar_head_ne_quote c _ _)
    | cons d right =>
      simp only [escape, flatMap_cons, append_assoc] at same
      have read := congrArg readChar same
      rw [readChar_escapeChar, readChar_escapeChar] at read
      simp only [Option.some.injEq, Prod.mk.injEq] at read
      obtain ⟨tailEq, restEq⟩ := ih right read.2
      exact ⟨by rw [read.1, tailEq], restEq⟩

theorem quoted_inj {left right : String} {leftRest rightRest : List Char}
    (same : quoted left ++ leftRest = quoted right ++ rightRest) :
    left = right ∧ leftRest = rightRest := by
  simp only [quoted, cons_append, append_assoc, nil_append, List.cons.injEq, true_and] at same
  obtain ⟨textEq, restEq⟩ := escape_quote_inj _ _ _ _ same
  exact ⟨String.toList_injective textEq, restEq⟩

theorem append_separator_inj {α : Type} (separator : α) (left right leftRest rightRest : List α)
    (leftFree : separator ∉ left) (rightFree : separator ∉ right)
    (same : left ++ separator :: leftRest = right ++ separator :: rightRest) :
    left = right ∧ leftRest = rightRest := by
  induction left generalizing right with
  | nil =>
    cases right with
    | nil =>
      simp only [nil_append, List.cons.injEq, true_and] at same
      exact ⟨rfl, same⟩
    | cons d right =>
      simp only [nil_append, cons_append, List.cons.injEq] at same
      exact absurd (same.1 ▸ mem_cons_self) rightFree
  | cons c left ih =>
    cases right with
    | nil =>
      simp only [nil_append, cons_append, List.cons.injEq] at same
      exact absurd (same.1 ▸ mem_cons_self) leftFree
    | cons d right =>
      simp only [cons_append, List.cons.injEq] at same
      obtain ⟨tailEq, restEq⟩ := ih right (fun member => leftFree (mem_cons_of_mem _ member))
        (fun member => rightFree (mem_cons_of_mem _ member)) same.2
      exact ⟨by rw [same.1, tailEq], restEq⟩

theorem comma_not_mem_int (value : Int) : ',' ∉ (toString value).toList :=
  not_mem_int (by decide) (by decide) value

end Json

end Foundation
end ZepGpu
