import Mathlib.Data.List.Infix
import ZepGpu.Foundation.Bytes

namespace ZepGpu
namespace Foundation

open List

/-!
# Reading texts

Searching, splitting and stripping as the string methods do it, ASCII
decoding, and the integers that a text spells.
-/

section Split

variable {α : Type} [DecidableEq α]

/-- `text.split(separator, 1)` when the separator occurs: what stands before
its first occurrence, and what stands after it. -/
def splitOnce? (separator : List α) : List α -> Option (List α × List α)
  | [] => if separator = [] then some ([], []) else none
  | c :: rest =>
    if separator <+: c :: rest then some ([], (c :: rest).drop separator.length)
    else (splitOnce? separator rest).map (fun (before, after) => (c :: before, after))

/-- `separator in text` -/
def occursIn (separator text : List α) : Bool :=
  (splitOnce? separator text).isSome

theorem splitOnce?_append {head : α} {separator before after : List α} (fresh : head ∉ before) :
    splitOnce? (head :: separator) (before ++ (head :: separator ++ after)) = some (before, after) := by
  induction before with
  | nil =>
    have here : head :: separator <+: head :: (separator ++ after) :=
      prefix_append (head :: separator) after
    rw [nil_append, cons_append, splitOnce?, if_pos here, ← cons_append, drop_left]
  | cons c rest ih =>
    have later := ih (fun member => fresh (mem_cons_of_mem _ member))
    have absent : ¬ head :: separator <+: c :: (rest ++ (head :: separator ++ after)) := by
      intro found
      have first := (cons_prefix_cons.mp found).1
      exact fresh (first ▸ mem_cons_self)
    rw [cons_append, splitOnce?, if_neg absent, later, Option.map_some]

theorem splitOnce?_map {β : Type} [DecidableEq β] {change : α -> β} {separator : List α}
    (apart : ∀ letter, letter ∈ separator -> ∀ other, change other = change letter ->
      other = letter) (text : List α) :
    splitOnce? (separator.map change) (text.map change) =
      (splitOnce? separator text).map (fun (before, after) => (before.map change, after.map change)) := by
  have begins : ∀ (front rest : List α), (∀ letter, letter ∈ front -> letter ∈ separator) ->
      (front.map change <+: rest.map change ↔ front <+: rest) := by
    intro front
    induction front with
    | nil => exact fun rest _ => ⟨fun _ => nil_prefix, fun _ => nil_prefix⟩
    | cons letter front ih =>
      intro rest inside
      cases rest with
      | nil => simp
      | cons other rest =>
        rw [map_cons, map_cons, cons_prefix_cons, cons_prefix_cons,
          ih rest (fun wanted member => inside wanted (mem_cons_of_mem _ member))]
        constructor
        · rintro ⟨same, later⟩
          exact ⟨(apart letter (inside letter mem_cons_self) other same.symm).symm, later⟩
        · rintro ⟨rfl, later⟩
          exact ⟨rfl, later⟩
  induction text with
  | nil =>
    rw [map_nil, splitOnce?, splitOnce?]
    cases separator with
    | nil => rfl
    | cons letter rest => rfl
  | cons c rest ih =>
    have here := begins separator (c :: rest) (fun _ member => member)
    rw [map_cons] at here
    rw [map_cons, splitOnce?, splitOnce?]
    by_cases found : separator <+: c :: rest
    · rw [if_pos found, if_pos (here.mpr found), length_map, ← map_cons, ← map_drop]
      rfl
    · rw [if_neg found, if_neg (fun other => found (here.mp other)), ih]
      cases splitOnce? separator rest with
      | none => rfl
      | some pair => rfl

end Split

def whiteSpace : List Nat :=
  [9, 10, 11, 12, 13, 28, 29, 30, 31, 32, 133, 160, 5760, 8192, 8193, 8194, 8195, 8196, 8197, 8198,
    8199, 8200, 8201, 8202, 8232, 8233, 8239, 8287, 12288]

def isSpace (c : Char) : Bool :=
  c.toNat ∈ whiteSpace

/-- `text.strip()` -/
def strip (text : List Char) : List Char :=
  ((text.dropWhile isSpace).reverse.dropWhile isSpace).reverse

theorem strip_eq_self {text : List Char} (plain : ∀ c, c ∈ text -> isSpace c = false) :
    strip text = text := by
  have keep : ∀ other : List Char, (∀ c, c ∈ other -> isSpace c = false) ->
      other.dropWhile isSpace = other := by
    intro other plain
    cases other with
    | nil => rfl
    | cons c rest => rw [dropWhile_cons, plain c mem_cons_self, if_neg Bool.false_ne_true]
  rw [strip, keep text plain, keep text.reverse (fun c member => plain c (mem_reverse.mp member)),
    reverse_reverse]

/-- `data.decode("ascii", errors="replace")` -/
def asciiReplace (data : Bytes) : List Char :=
  data.map (fun byte => if byte.toNat < 128 then Char.ofNat byte.toNat else Char.ofNat 0xfffd)

/-- `data.decode("ascii")` -/
def ascii? (data : Bytes) : Option (List Char) :=
  if data.all (fun byte => byte.toNat < 128) then some (asciiReplace data) else none

theorem utf8_eq_flatMap (text : String) :
    utf8 text = text.toList.flatMap String.utf8EncodeChar := by
  rw [utf8, String.toUTF8_eq_toByteArray, ← String.utf8Encode_toList, List.utf8Encode,
    data_toByteArray, toList_toArray]

/-- `text.encode("utf-8")`, for a text given by its characters. -/
def utf8Chars (text : List Char) : Bytes :=
  text.flatMap String.utf8EncodeChar

theorem utf8Chars_injective : Function.Injective utf8Chars := by
  have same : ∀ text, utf8Chars text = utf8 (String.ofList text) := by
    intro text
    rw [utf8_eq_flatMap, String.toList_ofList, utf8Chars]
  intro left right equal
  rw [same, same] at equal
  have read := congrArg ofUtf8? equal
  rw [ofUtf8?_utf8, ofUtf8?_utf8] at read
  exact String.ofList_injective (Option.some.inj read)

theorem ascii_byte {c : Char} (small : c.toNat < 128) :
    String.utf8EncodeChar c = [c.val.toUInt8] ∧ c.val.toUInt8.toNat = c.toNat := by
  have size : c.utf8Size = 1 := by
    rw [Char.utf8Size_eq_one_iff]
    exact UInt32.le_iff_toNat_le.mpr (Nat.lt_succ_iff.mp small)
  refine ⟨String.utf8EncodeChar_eq_singleton size, ?_⟩
  rw [UInt32.toNat_toUInt8]
  exact Nat.mod_eq_of_lt (Nat.lt_trans small (by decide))

theorem asciiReplace_utf8 {text : String} (plain : ∀ c, c ∈ text.toList -> c.toNat < 128) :
    asciiReplace (utf8 text) = text.toList := by
  rw [utf8_eq_flatMap, asciiReplace]
  generalize text.toList = chars at plain
  induction chars with
  | nil => rfl
  | cons c rest ih =>
    have small := plain c mem_cons_self
    obtain ⟨single, byte⟩ := ascii_byte small
    rw [flatMap_cons, single, singleton_append, map_cons,
      ih (fun other member => plain other (mem_cons_of_mem _ member)), byte, if_pos small,
      Char.ofNat_toNat]

theorem ascii?_utf8 {text : String} (plain : ∀ c, c ∈ text.toList -> c.toNat < 128) :
    ascii? (utf8 text) = some text.toList := by
  have all : (utf8 text).all (fun byte => byte.toNat < 128) = true := by
    rw [all_eq_true]
    intro byte member
    rw [utf8_eq_flatMap, mem_flatMap] at member
    obtain ⟨c, inside, isByte⟩ := member
    obtain ⟨single, same⟩ := ascii_byte (plain c inside)
    rw [single, mem_singleton] at isByte
    rw [isByte, same]
    exact decide_eq_true (plain c inside)
  rw [ascii?, if_pos all, asciiReplace_utf8 plain]

/-- The zeros of the decimal digits of all scripts. -/
def decimalZeros : List Nat :=
  [0x0030, 0x0660, 0x06f0, 0x07c0, 0x0966, 0x09e6, 0x0a66, 0x0ae6, 0x0b66, 0x0be6, 0x0c66,
    0x0ce6, 0x0d66, 0x0de6, 0x0e50, 0x0ed0, 0x0f20, 0x1040, 0x1090, 0x17e0, 0x1810, 0x1946,
    0x19d0, 0x1a80, 0x1a90, 0x1b50, 0x1bb0, 0x1c40, 0x1c50, 0xa620, 0xa8d0, 0xa900, 0xa9d0,
    0xa9f0, 0xaa50, 0xabf0, 0xff10, 0x104a0, 0x10d30, 0x11066, 0x110f0, 0x11136, 0x111d0,
    0x112f0, 0x11450, 0x114d0, 0x11650, 0x116c0, 0x11730, 0x118e0, 0x11950, 0x11c50, 0x11d50,
    0x11da0, 0x16a60, 0x16ac0, 0x16b50, 0x1d7ce, 0x1d7d8, 0x1d7e2, 0x1d7ec, 0x1d7f6, 0x1e140,
    0x1e2f0, 0x1e950, 0x1fbf0]

def digit? (c : Char) : Option Nat :=
  (decimalZeros.find? (fun start => start ≤ c.toNat ∧ c.toNat < start + 10)).map (c.toNat - ·)

/-- Digits with single underscores between them. -/
def readDigits (sum : Nat) : List Char -> Option Nat
  | [] => some sum
  | '_' :: c :: rest => (digit? c).bind (fun digit => readDigits (sum * 10 + digit) rest)
  | c :: rest => (digit? c).bind (fun digit => readDigits (sum * 10 + digit) rest)

/-- A number of at most 4300 digits. -/
def readNat? (text : List Char) : Option Nat :=
  match text with
  | [] => none
  | '_' :: _ => none
  | _ => if (text.filter (fun c => (digit? c).isSome)).length ≤ 4300 then readDigits 0 text else none

/-- `int(text)` -/
def readInt? (text : List Char) : Option Int :=
  match strip text with
  | '+' :: rest => (readNat? rest).map (fun value => (value : Int))
  | '-' :: rest => (readNat? rest).map (fun value => -(value : Int))
  | rest => (readNat? rest).map (fun value => (value : Int))

example : readInt? " -1_200\t".toList = some (-1200) ∧ readInt? "1__0".toList = none := by
  decide

theorem natRepr_injective {left right : Nat} (same : (Nat.repr left).toList = (Nat.repr right).toList) :
    left = right := by
  have read : ∀ n : Nat, Nat.ofDigitChars 10 (Nat.repr n).toList 0 = n := by
    intro n
    simp [Nat.repr]
  rw [← read left, same, read]

theorem isDigit_of_mem_natRepr {n : Nat} {c : Char} (member : c ∈ (Nat.repr n).toList) :
    c.isDigit = true :=
  Nat.isDigit_of_mem_toDigits (b := 10) (by decide) (by decide)
    (show c ∈ Nat.toDigits 10 n by simpa [Nat.repr] using member)

theorem toString_negSucc (n : Nat) :
    (toString (Int.negSucc n)).toList = '-' :: (Nat.repr (n + 1)).toList := by
  simp [toString, Int.repr]

theorem not_mem_int {c : Char} (digit : c.isDigit = false) (sign : c ≠ '-') (value : Int) :
    c ∉ (toString value).toList := by
  have digits : ∀ n : Nat, c ∉ (Nat.repr n).toList := by
    intro n member
    rw [isDigit_of_mem_natRepr member] at digit
    cases digit
  cases value with
  | ofNat n => exact digits n
  | negSucc n =>
    intro member
    rw [toString_negSucc, mem_cons] at member
    rcases member with impossible | member
    · exact sign impossible
    · exact digits (n + 1) member

theorem toString_int_injective {left right : Int}
    (same : (toString left).toList = (toString right).toList) : left = right := by
  have digits : ∀ n : Nat, '-' ∉ (Nat.repr n).toList := by
    intro n member
    exact absurd (isDigit_of_mem_natRepr member) (by decide)
  cases left with
  | ofNat n =>
    cases right with
    | ofNat m => exact congrArg Int.ofNat (natRepr_injective same)
    | negSucc m =>
      rw [toString_negSucc] at same
      exact absurd (same.symm ▸ mem_cons_self) (digits n)
  | negSucc n =>
    cases right with
    | ofNat m =>
      rw [toString_negSucc] at same
      exact absurd (same ▸ mem_cons_self) (digits m)
    | negSucc m =>
      rw [toString_negSucc, toString_negSucc] at same
      have next := natRepr_injective (List.cons.inj same).2
      exact congrArg Int.negSucc (Nat.succ.inj next)

theorem toNat_of_isDigit {c : Char} (digit : c.isDigit = true) : 48 ≤ c.toNat ∧ c.toNat < 58 := by
  rw [Char.isDigit, Bool.and_eq_true, decide_eq_true_iff, decide_eq_true_iff] at digit
  have low : 48 ≤ c.val.toNat := UInt32.le_iff_toNat_le.mp digit.1
  have high : c.val.toNat ≤ 57 := UInt32.le_iff_toNat_le.mp digit.2
  exact ⟨low, Nat.lt_succ_of_le high⟩

theorem digit?_of_isDigit {c : Char} (digit : c.isDigit = true) :
    digit? c = some (c.toNat - '0'.toNat) := by
  have range := toNat_of_isDigit digit
  have zeros : decimalZeros = 0x30 :: decimalZeros.tail := rfl
  have found : decimalZeros.find? (fun start => start ≤ c.toNat ∧ c.toNat < start + 10) = some 0x30 := by
    rw [zeros]
    exact find?_cons_of_pos (decide_eq_true range)
  rw [digit?, found]
  rfl

theorem readDigits_of_digits {text : List Char} (digits : ∀ c, c ∈ text -> c.isDigit = true)
    (sum : Nat) : readDigits sum text = some (Nat.ofDigitChars 10 text sum) := by
  induction text generalizing sum with
  | nil => rfl
  | cons c rest ih =>
    have digit := digits c mem_cons_self
    have letter : c ≠ '_' := by
      rintro rfl
      exact absurd digit (by decide)
    have later := ih (fun other member => digits other (mem_cons_of_mem _ member))
    rw [readDigits.eq_3 sum c rest (fun _ _ impossible _ => letter impossible),
      digit?_of_isDigit digit, Option.bind_some, later, Nat.ofDigitChars_cons, Nat.mul_comm]

theorem readNat?_repr {n : Nat} (short : (Nat.toDigits 10 n).length ≤ 4300) :
    readNat? (Nat.repr n).toList = some n := by
  have digits : ∀ c, c ∈ (Nat.repr n).toList -> c.isDigit = true :=
    fun c member => isDigit_of_mem_natRepr member
  have whole : (Nat.repr n).toList = Nat.toDigits 10 n := by simp [Nat.repr]
  have few : ((Nat.repr n).toList.filter (fun c => (digit? c).isSome)).length ≤ 4300 := by
    apply (length_filter_le _ _).trans
    rw [whole]
    exact short
  have value : Nat.ofDigitChars 10 (Nat.repr n).toList 0 = n := by
    rw [whole]
    exact Nat.ofDigitChars_ten_toDigits
  cases chars : (Nat.repr n).toList with
  | nil =>
    have positive : 0 < (Nat.toDigits 10 n).length := Nat.length_toDigits_pos
    rw [← whole, chars] at positive
    exact absurd positive (by decide)
  | cons c rest =>
    rw [chars] at digits few value
    have letter : c ≠ '_' := by
      rintro rfl
      exact absurd (digits _ mem_cons_self) (by decide)
    unfold readNat?
    split
    case h_1 none => cases none
    case h_2 underscore => exact absurd (List.cons.inj underscore).1 letter
    case h_3 => rw [if_pos few, readDigits_of_digits digits, value]

theorem isSpace_of_mem_int {value : Int} {c : Char} (member : c ∈ (toString value).toList) :
    isSpace c = false := by
  by_cases digit : c.isDigit = true
  · have range := toNat_of_isDigit digit
    rw [isSpace, decide_eq_false_iff_not]
    intro space
    simp only [whiteSpace, mem_cons, not_mem_nil, or_false] at space
    omega
  · by_cases sign : c = '-'
    · rw [sign]
      decide
    · exact absurd member (not_mem_int (Bool.not_eq_true _ ▸ digit) sign value)

theorem readInt?_toString {value : Int} (short : (Nat.toDigits 10 value.natAbs).length ≤ 4300) :
    readInt? (toString value).toList = some value := by
  rw [readInt?, strip_eq_self (fun _ member => isSpace_of_mem_int member)]
  cases value with
  | ofNat n =>
    have text : (toString (Int.ofNat n)).toList = (Nat.repr n).toList := rfl
    rw [text]
    have plain : ∀ sign rest, sign.isDigit = false -> (Nat.repr n).toList ≠ sign :: rest := by
      intro sign rest other same
      have digit := isDigit_of_mem_natRepr (n := n) (same ▸ mem_cons_self)
      rw [digit] at other
      cases other
    split
    case h_1 rest same => exact absurd same (plain _ _ (by decide))
    case h_2 rest same => exact absurd same (plain _ _ (by decide))
    case h_3 =>
      have read : readNat? (Nat.repr n).toList = some n := readNat?_repr short
      rw [read]
      rfl
  | negSucc n =>
    rw [toString_negSucc]
    have read : readNat? (Nat.repr (n + 1)).toList = some (n + 1) := readNat?_repr short
    change Option.map _ (do let a ← readNat? (Nat.repr (n + 1)).toList; pure (a : Int)) = _
    rw [read]
    rfl

theorem short_of_lt {n : Nat} (small : n < 10 ^ 9) : (Nat.toDigits 10 n).length ≤ 4300 :=
  ((Nat.length_toDigits_le_iff (by decide) (by decide)).mpr small).trans (by decide)

theorem readInt?_ascii {value : Int} (short : (Nat.toDigits 10 value.natAbs).length ≤ 4300) :
    (ascii? (utf8 (toString value))).bind readInt? = some value := by
  have plain : ∀ c, c ∈ (toString value).toList -> c.toNat < 128 := by
    intro c member
    by_cases digit : c.isDigit = true
    · exact (toNat_of_isDigit digit).2.trans (by decide)
    · by_cases sign : c = '-'
      · rw [sign]
        decide
      · exact absurd member (not_mem_int (Bool.not_eq_true _ ▸ digit) sign value)
  rw [ascii?_utf8 plain, Option.bind_some, readInt?_toString short]

end Foundation
end ZepGpu
