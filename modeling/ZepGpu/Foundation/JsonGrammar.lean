import ZepGpu.Foundation.JsonNesting

namespace ZepGpu
namespace Foundation
namespace Json

open List

/-!
# The grammar of JSON

The grammar derives a text together with the depth to which arrays and objects
are nested in it.  A scan for brackets that takes strings and their escapes into
account finds the depth of every text that the grammar derives.
-/

def Blanks (text : List Char) : Prop :=
  ∀ c, c ∈ text -> isBlank c = true

inductive IsStringChar : List Char -> Prop where
  | unescaped (c : Char) (printable : 32 ≤ c.toNat) (quote : c ≠ '"') (slash : c ≠ '\\') :
      IsStringChar [c]
  | escape (c : Char) (listed : c ∈ ['"', '\\', '/', 'b', 'f', 'n', 'r', 't']) :
      IsStringChar ['\\', c]
  | code (digits : List Char) (four : digits.length = 4)
      (hexadecimal : ∀ c, c ∈ digits -> (hexDigit? c).isSome = true) :
      IsStringChar ('\\' :: 'u' :: digits)

inductive IsStringChars : List Char -> Prop where
  | nil : IsStringChars []
  | cons {char rest : List Char} (first : IsStringChar char) (others : IsStringChars rest) :
      IsStringChars (char ++ rest)

inductive IsString : List Char -> Prop where
  | quoted {chars : List Char} (inside : IsStringChars chars) : IsString ('"' :: (chars ++ ['"']))

def IsDigits (text : List Char) : Prop :=
  text ≠ [] ∧ ∀ c, c ∈ text -> isAsciiDigit c = true

/-- An integer without its sign, which starts with a zero only when it is zero. -/
def IsWhole (text : List Char) : Prop :=
  IsDigits text ∧ (text.head? = some '0' -> text = ['0'])

def IsFraction (text : List Char) : Prop :=
  text = [] ∨ ∃ digits, IsDigits digits ∧ text = '.' :: digits

def IsExponent (text : List Char) : Prop :=
  text = [] ∨ ∃ mark sign digits, (mark = 'e' ∨ mark = 'E') ∧
    (sign = [] ∨ sign = ['+'] ∨ sign = ['-']) ∧ IsDigits digits ∧ text = mark :: (sign ++ digits)

inductive IsNumber : List Char -> Prop where
  | parts {sign whole fraction exponent : List Char} (signed : sign = [] ∨ sign = ['-'])
      (isWhole : IsWhole whole) (isFraction : IsFraction fraction) (isExponent : IsExponent exponent) :
      IsNumber (sign ++ (whole ++ (fraction ++ exponent)))

mutual

inductive IsValue : List Char -> Nat -> Prop where
  | null : IsValue ['n', 'u', 'l', 'l'] 0
  | true : IsValue ['t', 'r', 'u', 'e'] 0
  | false : IsValue ['f', 'a', 'l', 's', 'e'] 0
  | number {text : List Char} (isNumber : IsNumber text) : IsValue text 0
  | string {text : List Char} (isString : IsString text) : IsValue text 0
  | emptyArray {inside : List Char} (blanks : Blanks inside) : IsValue ('[' :: (inside ++ [']'])) 1
  | array {inside : List Char} {depth : Nat} (items : IsItems inside depth) :
      IsValue ('[' :: (inside ++ [']'])) (1 + depth)
  | emptyObject {inside : List Char} (blanks : Blanks inside) : IsValue ('{' :: (inside ++ ['}'])) 1
  | object {inside : List Char} {depth : Nat} (members : IsMembers inside depth) :
      IsValue ('{' :: (inside ++ ['}'])) (1 + depth)

inductive IsElement : List Char -> Nat -> Prop where
  | padded {before text after : List Char} {depth : Nat} (leading : Blanks before)
      (value : IsValue text depth) (trailing : Blanks after) :
      IsElement (before ++ (text ++ after)) depth

inductive IsItems : List Char -> Nat -> Prop where
  | one {text : List Char} {depth : Nat} (item : IsElement text depth) : IsItems text depth
  | more {text rest : List Char} {depth restDepth : Nat} (item : IsElement text depth)
      (others : IsItems rest restDepth) : IsItems (text ++ ',' :: rest) (max depth restDepth)

inductive IsMember : List Char -> Nat -> Prop where
  | named {before name after text : List Char} {depth : Nat} (leading : Blanks before)
      (isName : IsString name) (trailing : Blanks after) (value : IsElement text depth) :
      IsMember (before ++ (name ++ (after ++ ':' :: text))) depth

inductive IsMembers : List Char -> Nat -> Prop where
  | one {text : List Char} {depth : Nat} (member : IsMember text depth) : IsMembers text depth
  | more {text rest : List Char} {depth restDepth : Nat} (member : IsMember text depth)
      (others : IsMembers rest restDepth) : IsMembers (text ++ ',' :: rest) (max depth restDepth)

end

abbrev IsDocument : List Char -> Nat -> Prop :=
  IsElement

variable {limit : Nat}

/-- What can stand between the quotation marks of a string, whatever its escapes mean. -/
inductive StringBody : List Char -> Prop where
  | nil : StringBody []
  | plain {c : Char} {rest : List Char} (quote : c ≠ '"') (slash : c ≠ '\\') (others : StringBody rest) :
      StringBody (c :: rest)
  | escape (c : Char) {rest : List Char} (others : StringBody rest) : StringBody ('\\' :: c :: rest)

theorem nestsBeyond_stringBody {body : List Char} (isBody : StringBody body) (depth : Nat)
    (tail : List Char) :
    nestsBeyond limit depth true false (body ++ '"' :: tail) =
      nestsBeyond limit depth false false tail := by
  induction isBody with
  | nil => rfl
  | plain quote slash _ ih =>
    rw [cons_append, nestsBeyond]
    simp only [if_true, Bool.false_eq_true, if_false, if_neg slash, if_neg quote]
    exact ih
  | escape c _ ih => exact ih

theorem stringBody_append {first second : List Char} (left : StringBody first)
    (right : StringBody second) : StringBody (first ++ second) := by
  induction left with
  | nil => exact right
  | plain quote slash _ ih => exact .plain quote slash ih
  | escape c _ ih => exact .escape c ih

theorem stringBody_of_plain {text : List Char} (plain : ∀ c, c ∈ text -> c ≠ '"' ∧ c ≠ '\\') :
    StringBody text := by
  induction text with
  | nil => exact .nil
  | cons c rest ih =>
    have here := plain c mem_cons_self
    exact .plain here.1 here.2 (ih (fun other member => plain other (mem_cons_of_mem _ member)))

theorem IsStringChar.stringBody {text : List Char} (isChar : IsStringChar text) : StringBody text := by
  cases isChar with
  | unescaped c printable quote slash => exact .plain quote slash .nil
  | escape c listed => exact .escape c .nil
  | code digits four hexadecimal =>
    apply StringBody.escape 'u'
    apply stringBody_of_plain
    intro c member
    have digit := hexadecimal c member
    constructor
    · rintro rfl
      cases digit
    · rintro rfl
      cases digit

theorem IsStringChars.stringBody {text : List Char} (chars : IsStringChars text) : StringBody text := by
  induction chars with
  | nil => exact .nil
  | cons first _ ih => exact stringBody_append first.stringBody ih

theorem nestsBeyond_isString {text : List Char} (isString : IsString text) (depth : Nat)
    (tail : List Char) :
    nestsBeyond limit depth false false (text ++ tail) = nestsBeyond limit depth false false tail := by
  cases isString with
  | quoted inside =>
    rw [cons_append, append_assoc]
    exact nestsBeyond_stringBody inside.stringBody depth tail

theorem Blanks.isMark {text : List Char} (blanks : Blanks text) {c : Char} (member : c ∈ text) :
    isMark c = false := by
  have blank := blanks c member
  simp only [isBlank, Bool.or_eq_true, decide_eq_true_eq] at blank
  rcases blank with ((rfl | rfl) | rfl) | rfl
  · rfl
  · rfl
  · rfl
  · rfl

theorem nestsBeyond_blanks {text : List Char} (blanks : Blanks text) (depth : Nat) (tail : List Char) :
    nestsBeyond limit depth false false (text ++ tail) = nestsBeyond limit depth false false tail :=
  nestsBeyond_plain (fun _ member => blanks.isMark member) tail

theorem IsDigits.isMark {text : List Char} (digits : IsDigits text) {c : Char} (member : c ∈ text) :
    isMark c = false :=
  isMark_of_isNumberChar (isNumberChar_of_digit (digits.2 c member))

theorem IsNumber.isMark {text : List Char} (isNumber : IsNumber text) {c : Char} (member : c ∈ text) :
    isMark c = false := by
  cases isNumber with
  | parts signed isWhole isFraction isExponent =>
    simp only [mem_append] at member
    rcases member with inSign | inWhole | inFraction | inExponent
    · rcases signed with rfl | rfl
      · cases inSign
      · rw [mem_singleton.mp inSign]
        rfl
    · exact isWhole.1.isMark inWhole
    · rcases isFraction with rfl | ⟨digits, isDigits, rfl⟩
      · cases inFraction
      · rcases mem_cons.mp inFraction with rfl | inDigits
        · rfl
        · exact isDigits.isMark inDigits
    · rcases isExponent with rfl | ⟨mark, sign, digits, isMark, isSign, isDigits, rfl⟩
      · cases inExponent
      · rcases mem_cons.mp inExponent with rfl | inRest
        · rcases isMark with rfl | rfl
          · rfl
          · rfl
        · rcases mem_append.mp inRest with inSign | inDigits
          · rcases isSign with rfl | rfl | rfl
            · cases inSign
            · rw [mem_singleton.mp inSign]
              rfl
            · rw [mem_singleton.mp inSign]
              rfl
          · exact isDigits.isMark inDigits

/-- The scan meets the whole depth of a text, and leaves it at the depth at which it
met it. -/
def Scanned (limit : Nat) (text : List Char) (inner : Nat) : Prop :=
  ∀ depth tail, depth ≤ limit ->
    (nestsBeyond limit depth false false (text ++ tail) = true ↔
      limit < depth + inner ∨ nestsBeyond limit depth false false tail = true)

theorem scanned_of_skipped {text : List Char}
    (skipped : ∀ depth tail, nestsBeyond limit depth false false (text ++ tail) =
      nestsBeyond limit depth false false tail) : Scanned limit text 0 := by
  intro depth tail shallow
  rw [skipped]
  exact (or_iff_right (not_lt.mpr shallow)).symm

theorem scanned_bracketed {opening closing : Char} (isOpen : opening = '[' ∨ opening = '{')
    (isClose : closing = ']' ∨ closing = '}') {inside : List Char} {inner : Nat}
    (scanned : Scanned limit inside inner) :
    Scanned limit (opening :: (inside ++ [closing])) (1 + inner) := by
  intro depth tail _
  rw [cons_append, append_assoc]
  apply nestsBeyond_bracketed isOpen isClose inside
  intro shallow
  exact scanned (depth + 1) _ shallow

theorem Scanned.after {front text : List Char} {inner : Nat} (scanned : Scanned limit text inner)
    (skipped : ∀ depth tail, nestsBeyond limit depth false false (front ++ tail) =
      nestsBeyond limit depth false false tail) : Scanned limit (front ++ text) inner := by
  intro depth tail shallow
  rw [append_assoc, skipped]
  exact scanned depth tail shallow

theorem Scanned.comma {first rest : List Char} {inner restInner : Nat}
    (scanned : Scanned limit first inner) (others : Scanned limit rest restInner) :
    Scanned limit (first ++ ',' :: rest) (max inner restInner) := by
  intro depth tail shallow
  rw [append_assoc, scanned depth _ shallow, cons_append, nestsBeyond_comma,
    others depth tail shallow, lt_add_max_iff, or_assoc]

mutual

theorem IsValue.scanned {text : List Char} {inner : Nat} : IsValue text inner -> Scanned limit text inner
  | .null => scanned_of_skipped (fun _ _ => rfl)
  | .true => scanned_of_skipped (fun _ _ => rfl)
  | .false => scanned_of_skipped (fun _ _ => rfl)
  | .number isNumber =>
    scanned_of_skipped (fun _ tail => nestsBeyond_plain (fun _ member => isNumber.isMark member) tail)
  | .string isString => scanned_of_skipped (fun depth tail => nestsBeyond_isString isString depth tail)
  | .emptyArray blanks =>
    scanned_bracketed (Or.inl rfl) (Or.inl rfl) (scanned_of_skipped (nestsBeyond_blanks blanks))
  | .array items => scanned_bracketed (Or.inl rfl) (Or.inl rfl) items.scanned
  | .emptyObject blanks =>
    scanned_bracketed (Or.inr rfl) (Or.inr rfl) (scanned_of_skipped (nestsBeyond_blanks blanks))
  | .object members => scanned_bracketed (Or.inr rfl) (Or.inr rfl) members.scanned

theorem IsElement.scanned {text : List Char} {inner : Nat} :
    IsElement text inner -> Scanned limit text inner
  | .padded leading value trailing => by
      apply Scanned.after _ (nestsBeyond_blanks leading)
      intro depth tail shallow
      rw [append_assoc, value.scanned depth _ shallow, nestsBeyond_blanks trailing]

theorem IsItems.scanned {text : List Char} {inner : Nat} : IsItems text inner -> Scanned limit text inner
  | .one item => item.scanned
  | .more item others => item.scanned.comma others.scanned

theorem IsMember.scanned {text : List Char} {inner : Nat} :
    IsMember text inner -> Scanned limit text inner
  | .named leading isName trailing value => by
      apply Scanned.after _ (nestsBeyond_blanks leading)
      apply Scanned.after _ (nestsBeyond_isString isName)
      apply Scanned.after _ (nestsBeyond_blanks trailing)
      intro depth tail shallow
      rw [cons_append, nestsBeyond_colon]
      exact value.scanned depth tail shallow

theorem IsMembers.scanned {text : List Char} {inner : Nat} :
    IsMembers text inner -> Scanned limit text inner
  | .one member => member.scanned
  | .more member others => member.scanned.comma others.scanned

end

theorem nestsBeyond_document {text : List Char} {depth : Nat} (document : IsDocument text depth) :
    nestsBeyond limit 0 false false text = true ↔ limit < depth := by
  have scanned := document.scanned 0 [] (Nat.zero_le limit)
  rw [append_nil, Nat.zero_add] at scanned
  exact scanned.trans (or_iff_left Bool.false_ne_true)

end Json
end Foundation
end ZepGpu
