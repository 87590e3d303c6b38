import ZepGpu.Foundation.JsonValues

namespace ZepGpu
namespace Foundation

open List

/-!
# A written value is read back

The text of a value that the writer takes is read as that value, whatever
follows it, as long as what follows cannot be part of a number.  The steps are
those of the writer: one lemma for a string, one for each kind of number, and
an induction over the value for the rest.
-/

namespace Json

/-! ## Strings -/

theorem hexDigit?_digitChar {digit : Nat} (small : digit < 16) :
    hexDigit? (Nat.digitChar digit) = some digit := by
  interval_cases digit <;> decide

theorem code?_hex4 {code : Nat} (small : code < 65536) :
    code? (Nat.digitChar (code / 4096 % 16)) (Nat.digitChar (code / 256 % 16))
      (Nat.digitChar (code / 16 % 16)) (Nat.digitChar (code % 16)) = some code := by
  simp only [code?, hexDigit?_digitChar (Nat.mod_lt _ (by decide : 0 < 16)), Option.bind_eq_bind,
    Option.bind_some, Option.some.injEq]
  omega

/-- What follows in a literal is no second half of a pair. -/
def StartsPlain (rest : List Char) : Prop :=
  ∀ e f g h tail, rest = '\\' :: 'u' :: e :: f :: g :: h :: tail ->
    ∃ code, code? e f g h = some code ∧ code < 32

theorem startsPlain_plainEscape (c : Char) (rest : List Char) :
    StartsPlain (plainEscape c ++ rest) := by
  intro e f g h tail same
  unfold plainEscape at same
  split_ifs at same with quote slash newline return_ tab backspace feed control
  · simp at same
  · simp at same
  · simp at same
  · simp at same
  · simp at same
  · simp at same
  · simp at same
  · simp only [hex4, cons_append, nil_append, List.cons.injEq, true_and] at same
    obtain ⟨first, second, third, fourth, _⟩ := same
    refine ⟨c.toNat, ?_, control⟩
    rw [← first, ← second, ← third, ← fourth]
    exact code?_hex4 (control.trans (by decide))
  · exact absurd (List.cons.inj same).1 slash

theorem startsPlain_escaped (chars tail : List Char) :
    StartsPlain (chars.flatMap plainEscape ++ '"' :: tail) := by
  cases chars with
  | nil =>
    intro e f g h rest same
    exact absurd (List.cons.inj same).1 (by decide)
  | cons c chars =>
    rw [flatMap_cons, append_assoc]
    exact startsPlain_plainEscape c _

variable {read rest : List Char} {c : Char}

theorem readString_control (control : c.toNat < 32) (plain : StartsPlain rest) :
    readString read ('\\' :: 'u' :: (hex4 c.toNat ++ rest)) = readString (c :: read) rest := by
  have code := code?_hex4 (control.trans (by decide) : c.toNat < 65536)
  have notHigh : isHighSurrogate c.toNat = false := by
    simp only [isHighSurrogate, Bool.and_eq_false_iff, decide_eq_false_iff_not]
    omega
  have notLow : ∀ {other : Nat}, other < 32 -> isLowSurrogate other = false := by
    intro other small
    simp only [isLowSurrogate, Bool.and_eq_false_iff, decide_eq_false_iff_not]
    omega
  simp only [hex4, cons_append, nil_append]
  by_cases again : ∃ e f g h tail, rest = '\\' :: 'u' :: e :: f :: g :: h :: tail
  · obtain ⟨e, f, g, h, tail, same⟩ := again
    obtain ⟨next, isNext, small⟩ := plain e f g h tail same
    subst same
    rw [readString.eq_3, code, isNext]
    simp only [notHigh, notLow control, Bool.false_and, Bool.or_false, Bool.false_eq_true, if_false,
      char_eq_ofNat rfl]
  · rw [readString.eq_4 _ _ _ _ _ _ (fun e f g h tail same => again ⟨e, f, g, h, tail, same⟩), code]
    simp only [notHigh, notLow control, Bool.or_false, Bool.false_eq_true, if_false,
      char_eq_ofNat rfl]

theorem readString_simple {mark c : Char} (notCode : mark ≠ 'u')
    (escape : simpleEscape? mark = some c) :
    readString read ('\\' :: mark :: rest) = readString (c :: read) rest := by
  rw [readString.eq_5 _ _ _ (fun _ _ _ _ _ _ _ _ _ same _ => notCode same)
    (fun _ _ _ _ _ same _ => notCode same), escape]

theorem readString_plain (quote : c ≠ '"') (slash : c ≠ '\\') (printed : ¬ c.toNat < 32) :
    readString read (c :: rest) = readString (c :: read) rest := by
  rw [readString.eq_6 _ _ _ quote (fun _ _ _ _ _ _ _ _ _ same _ => slash same)
    (fun _ _ _ _ _ same _ => slash same) (fun _ _ same _ => slash same)]
  exact if_neg (not_or.mpr ⟨slash, printed⟩)

theorem readString_plainEscape (c : Char) (plain : StartsPlain rest) :
    readString read (plainEscape c ++ rest) = readString (c :: read) rest := by
  unfold plainEscape
  split_ifs with quote slash newline return_ tab backspace feed control
  · subst quote
    exact readString_simple (by decide) (by decide)
  · subst slash
    exact readString_simple (by decide) (by decide)
  · subst newline
    exact readString_simple (by decide) (by decide)
  · subst return_
    exact readString_simple (by decide) (by decide)
  · subst tab
    exact readString_simple (by decide) (by decide)
  · rw [← char_eq_ofNat backspace]
    exact readString_simple (by decide) (by decide)
  · rw [← char_eq_ofNat feed]
    exact readString_simple (by decide) (by decide)
  · exact readString_control control plain
  · exact readString_plain quote slash control

theorem readString_escaped (read chars tail : List Char) :
    readString read (chars.flatMap plainEscape ++ '"' :: tail) =
      .ok (String.ofList (read.reverse ++ chars), tail) := by
  induction chars generalizing read with
  | nil =>
    rw [append_nil]
    exact readString.eq_2 read tail
  | cons c chars ih =>
    rw [flatMap_cons, append_assoc, readString_plainEscape c (startsPlain_escaped _ _), ih,
      reverse_cons, append_assoc]
    rfl

theorem readString_quoted (value : String) (tail : List Char) :
    readString [] (value.toList.flatMap plainEscape ++ '"' :: tail) = .ok (value, tail) := by
  rw [readString_escaped, reverse_nil, nil_append, String.ofList_toList]

/-! ## Numbers -/

/-- What can follow a value: nothing, or the next of its siblings, or the end
of what holds it. -/
def Follows (tail : List Char) : Prop :=
  ∀ c, tail.head? = some c -> c = ',' ∨ c = ']' ∨ c = '}'

theorem Follows.head_ne {tail : List Char} (follows : Follows tail) {c : Char}
    (comma : c ≠ ',') (bracket : c ≠ ']') (brace : c ≠ '}') : tail.head? ≠ some c := by
  intro isHead
  rcases follows c isHead with same | same | same
  · exact comma same
  · exact bracket same
  · exact brace same

theorem follows_nil : Follows [] := by
  intro c impossible
  cases impossible

def StopsDigits (rest : List Char) : Prop :=
  ∀ c, rest.head? = some c -> isAsciiDigit c = false

theorem Follows.stopsDigits {tail : List Char} (follows : Follows tail) : StopsDigits tail := by
  intro c isHead
  rcases follows c isHead with rfl | rfl | rfl
  · decide
  · decide
  · decide

theorem stopsDigits_cons {rest : List Char} (stops : isAsciiDigit c = false) :
    StopsDigits (c :: rest) := by
  intro other isHead
  cases isHead
  exact stops

theorem takeWhile_stop {rest : List Char} (stops : StopsDigits rest) :
    rest.takeWhile isAsciiDigit = [] := by
  cases rest with
  | nil => rfl
  | cons c rest => exact takeWhile_cons_of_neg (Bool.eq_false_iff.mp (stops c rfl))

theorem takeWhile_digits {digits rest : List Char} (all : ∀ c, c ∈ digits -> isAsciiDigit c = true)
    (stops : StopsDigits rest) : (digits ++ rest).takeWhile isAsciiDigit = digits := by
  rw [takeWhile_append_of_pos all, takeWhile_stop stops, append_nil]

theorem dropWhile_digits {digits rest : List Char} (all : ∀ c, c ∈ digits -> isAsciiDigit c = true)
    (stops : StopsDigits rest) : (digits ++ rest).dropWhile isAsciiDigit = rest := by
  rw [dropWhile_append_of_pos all]
  cases rest with
  | nil => rfl
  | cons c rest => exact dropWhile_cons_of_neg (Bool.eq_false_iff.mp (stops c rfl))

theorem readFraction_none {rest : List Char} (point : rest.head? ≠ some '.') :
    readFraction rest = ([], rest) := by
  unfold readFraction
  split
  · exact absurd rfl point
  · rfl

theorem readFraction_text {fraction rest : List Char}
    (all : ∀ c, c ∈ fraction -> isAsciiDigit c = true) (stops : StopsDigits rest)
    (point : rest.head? ≠ some '.') :
    readFraction (fractionText fraction ++ rest) = (fraction, rest) := by
  unfold fractionText
  split_ifs with absent
  · rw [absent]
    exact readFraction_none point
  · simp only [readFraction, cons_append, takeWhile_digits all stops,
      dropWhile_digits all stops, if_neg absent]

theorem readExponent_none {rest : List Char} (small : rest.head? ≠ some 'e')
    (large : rest.head? ≠ some 'E') : readExponent rest = (none, rest) := by
  cases rest with
  | nil => rfl
  | cons mark rest =>
    have other : ¬ (mark = 'e' ∨ mark = 'E') := by
      rintro (rfl | rfl)
      · exact small rfl
      · exact large rfl
    simp only [readExponent, if_neg other]

theorem readExponent_some {sign digits rest : List Char}
    (isSign : sign = [] ∨ sign = ['+'] ∨ sign = ['-']) (nonempty : digits ≠ [])
    (all : ∀ c, c ∈ digits -> isAsciiDigit c = true) (stops : StopsDigits rest) :
    ∃ value : Int, readExponent (exponentText (some (sign, digits)) ++ rest) = (some value, rest) := by
  cases digits with
  | nil => exact absurd rfl nonempty
  | cons d digits =>
    have digit := all d mem_cons_self
    have minus : d ≠ '-' := by
      rintro rfl
      exact absurd digit (by decide)
    have plus : d ≠ '+' := by
      rintro rfl
      exact absurd digit (by decide)
    have taken := takeWhile_digits all stops
    have left := dropWhile_digits all stops
    rw [cons_append] at taken left
    rcases isSign with rfl | rfl | rfl
    · refine ⟨digitsValue (d :: digits), ?_⟩
      simp [readExponent, exponentText, minus, plus, taken, left]
    · refine ⟨digitsValue (d :: digits), ?_⟩
      simp [readExponent, exponentText, taken, left]
    · refine ⟨-(digitsValue (d :: digits) : Int), ?_⟩
      simp [readExponent, exponentText, taken, left]

theorem isAsciiDigit_of_isDigit (digit : c.isDigit = true) : isAsciiDigit c = true := by
  rw [Char.isDigit, Bool.and_eq_true, decide_eq_true_iff, decide_eq_true_iff] at digit
  rw [isAsciiDigit, Bool.and_eq_true, decide_eq_true_iff, decide_eq_true_iff]
  exact digit

section Numbers

variable {F : Type} (floats : Floats F)

variable {negative : Bool} {c : Char}

theorem readNumber_whole {whole rest : List Char} (nonempty : whole ≠ [])
    (all : ∀ c, c ∈ whole -> isAsciiDigit c = true)
    (leading : whole.head? = some '0' -> whole = ['0']) (stops : StopsDigits rest) :
    readNumber floats (signText negative ++ (whole ++ rest)) =
      readRest floats negative whole (signText negative ++ (whole ++ rest)) rest := by
  have unsigned : (if (signText negative ++ (whole ++ rest)).head? = some '-'
      then (signText negative ++ (whole ++ rest)).tail
      else signText negative ++ (whole ++ rest)) = whole ++ rest ∧
      decide ((signText negative ++ (whole ++ rest)).head? = some '-') = negative := by
    cases negative with
    | true => exact ⟨rfl, rfl⟩
    | false =>
      cases whole with
      | nil => exact absurd rfl nonempty
      | cons d digits =>
        have minus : d ≠ '-' := by
          rintro rfl
          exact absurd (all _ mem_cons_self) (by decide)
        simp [signText, minus]
  have found : (if whole.head? = some '0' then ['0'] else whole) = whole := by
    split_ifs with zero
    · exact (leading zero).symm
    · rfl
  simp only [readNumber, unsigned.1, unsigned.2, takeWhile_digits all stops, found, if_neg nonempty,
    drop_left]

theorem readNumber_int_append {whole tail : List Char} (nonempty : whole ≠ [])
    (all : ∀ c, c ∈ whole -> isAsciiDigit c = true)
    (leading : whole.head? = some '0' -> whole = ['0']) (short : whole.length ≤ 4300)
    (follows : Follows tail) :
    readNumber floats (signText negative ++ (whole ++ tail)) =
      .ok (.int (if negative then -(digitsValue whole : Int) else digitsValue whole), tail) := by
  rw [readNumber_whole floats nonempty all leading follows.stopsDigits]
  simp only [readRest, readFraction_none (follows.head_ne (by decide) (by decide) (by decide)),
    readExponent_none (follows.head_ne (by decide) (by decide) (by decide))
      (follows.head_ne (by decide) (by decide) (by decide)), and_self, if_true, if_neg (not_lt.mpr short)]

theorem readNumber_float_append (literal : FloatLiteral) {tail : List Char} (follows : Follows tail) :
    readNumber floats (literal.text ++ tail) =
      .ok (.float (floats.ofLiteral literal.text), tail) := by
  have exponent : ∃ value, readExponent (exponentText literal.exponent ++ tail) = (value, tail) ∧
      (literal.exponent ≠ none -> value ≠ none) := by
    cases isExponent : literal.exponent with
    | none =>
      refine ⟨none, ?_, fun impossible => absurd rfl impossible⟩
      exact readExponent_none (follows.head_ne (by decide) (by decide) (by decide))
        (follows.head_ne (by decide) (by decide) (by decide))
    | some parts =>
      rcases parts with ⟨sign, digits⟩
      obtain ⟨nonempty, all⟩ := literal.exponent_digits sign digits isExponent
      obtain ⟨value, read⟩ := readExponent_some (literal.exponent_sign sign digits isExponent)
        nonempty all follows.stopsDigits
      refine ⟨some value, read, fun _ impossible => ?_⟩
      cases impossible
  have afterFraction : StopsDigits (exponentText literal.exponent ++ tail) ∧
      (exponentText literal.exponent ++ tail).head? ≠ some '.' := by
    cases literal.exponent with
    | none => exact ⟨follows.stopsDigits, follows.head_ne (by decide) (by decide) (by decide)⟩
    | some parts => exact ⟨stopsDigits_cons (by decide), by simp [exponentText]⟩
  have afterWhole : StopsDigits (fractionText literal.fraction ++
      (exponentText literal.exponent ++ tail)) := by
    unfold fractionText
    split_ifs
    · exact afterFraction.1
    · exact stopsDigits_cons (by decide)
  have whole : literal.text ++ tail = signText literal.negative ++ (literal.whole ++
      (fractionText literal.fraction ++ (exponentText literal.exponent ++ tail))) := by
    simp only [FloatLiteral.text, append_assoc]
  obtain ⟨value, read, present⟩ := exponent
  have isFloat : ¬ (literal.fraction = [] ∧ value = none) := by
    rintro ⟨absent, missing⟩
    rcases literal.not_integer with fraction | exponent
    · exact fraction absent
    · exact present exponent missing
  have consumed : (literal.text ++ tail).take ((literal.text ++ tail).length - tail.length) =
      literal.text := by
    rw [length_append, Nat.add_sub_cancel, take_left]
  rw [whole, readNumber_whole floats literal.whole_ne_nil literal.whole_digits literal.leading_zero
    afterWhole, ← whole]
  simp only [readRest, readFraction_text literal.fraction_digits afterFraction.1 afterFraction.2, read,
    if_neg isFloat, consumed]

theorem toDigits_leading (n : Nat) :
    (Nat.toDigits 10 n).head? = some '0' -> Nat.toDigits 10 n = ['0'] := by
  induction n using Nat.strong_induction_on with
  | h n ih =>
    by_cases small : n < 10
    · rw [Nat.toDigits_of_lt_base small]
      intro isHead
      rw [head?_cons, Option.some.injEq] at isHead
      rw [isHead]
    · rw [Nat.toDigits_of_base_le (by decide) (not_lt.mp small)]
      intro isHead
      have positive : 0 < n / 10 := Nat.div_pos (not_lt.mp small) (by decide)
      rw [head?_append_of_ne_nil _ Nat.toDigits_ne_nil] at isHead
      have zero := ih (n / 10) (Nat.div_lt_self (by omega) (by decide)) isHead
      have value := Nat.ofDigitChars_ten_toDigits (n := n / 10)
      rw [zero] at value
      exact absurd value.symm (Nat.pos_iff_ne_zero.mp positive)

theorem digitsValue_toDigits (n : Nat) : digitsValue (Nat.toDigits 10 n) = n := by
  have value := Nat.ofDigitChars_ten_toDigits (n := n)
  rw [Nat.ofDigitChars_eq_foldl] at value
  simp only [Nat.mul_comm 10] at value
  exact value

theorem toString_eq_signText (value : Int) :
    (toString value).toList = signText (decide (value < 0)) ++ Nat.toDigits 10 value.natAbs := by
  cases value with
  | ofNat n =>
    have nonnegative : ¬ Int.ofNat n < 0 := not_lt.mpr (Int.natCast_nonneg n)
    rw [decide_eq_false nonnegative]
    simp [signText, toString, Int.repr, Nat.repr]
  | negSucc n =>
    rw [decide_eq_true (Int.negSucc_lt_zero n), toString_negSucc]
    simp [signText, Nat.repr]

theorem readNumber_int {value : Int} (short : (Nat.toDigits 10 value.natAbs).length ≤ 4300)
    {tail : List Char} (follows : Follows tail) :
    readNumber floats ((toString value).toList ++ tail) = .ok (.int value, tail) := by
  have all : ∀ c, c ∈ Nat.toDigits 10 value.natAbs -> isAsciiDigit c = true :=
    fun c member => isAsciiDigit_of_isDigit
      (Nat.isDigit_of_mem_toDigits (b := 10) (by decide) (by decide) member)
  rw [toString_eq_signText, append_assoc, readNumber_int_append floats Nat.toDigits_ne_nil all
    (toDigits_leading _) short follows, digitsValue_toDigits]
  have signed : (if decide (value < 0) = true then -(value.natAbs : Int) else value.natAbs) = value := by
    split_ifs with negative
    · have := of_decide_eq_true negative
      omega
    · have := of_decide_eq_false (Bool.eq_false_iff.mpr negative)
      omega
  rw [signed]

theorem readNumber_float {value : F} (finite : (floats.value value).isSome = true) {tail : List Char}
    (follows : Follows tail) :
    readNumber floats (floats.repr value ++ tail) = .ok (.float value, tail) := by
  obtain ⟨literal, isText⟩ := floats.repr_literal value finite
  rw [← isText, readNumber_float_append floats literal follows, isText, floats.ofLiteral_repr value finite]

/-! ## The characters of a number -/

/-- A character of a number with or without a fraction and an exponent. -/
def isNumberChar (c : Char) : Bool :=
  isAsciiDigit c || c = '-' || c = '+' || c = '.' || c = 'e'

theorem isNumberChar_of_digit (digit : isAsciiDigit c = true) : isNumberChar c = true := by
  simp [isNumberChar, digit]

theorem isNumberChar_sign (member : c ∈ signText negative) : isNumberChar c = true := by
  cases negative with
  | true =>
    rw [mem_singleton.mp member]
    decide
  | false => cases member

theorem isNumberChar_int {value : Int} (member : c ∈ (toString value).toList) :
    isNumberChar c = true := by
  rw [toString_eq_signText, mem_append] at member
  rcases member with sign | digit
  · exact isNumberChar_sign sign
  · exact isNumberChar_of_digit (isAsciiDigit_of_isDigit
      (Nat.isDigit_of_mem_toDigits (b := 10) (by decide) (by decide) digit))

theorem isNumberChar_literal (literal : FloatLiteral) (member : c ∈ literal.text) :
    isNumberChar c = true := by
  rw [FloatLiteral.text, mem_append, mem_append, mem_append] at member
  rcases member with sign | whole | fraction | exponent
  · exact isNumberChar_sign sign
  · exact isNumberChar_of_digit (literal.whole_digits c whole)
  · unfold fractionText at fraction
    split_ifs at fraction
    · cases fraction
    · rcases mem_cons.mp fraction with rfl | digit
      · decide
      · exact isNumberChar_of_digit (literal.fraction_digits c digit)
  · cases isExponent : literal.exponent with
    | none =>
      rw [isExponent] at exponent
      cases exponent
    | some parts =>
      rcases parts with ⟨sign, digits⟩
      rw [isExponent, exponentText, mem_cons, mem_append] at exponent
      rcases exponent with rfl | inSign | digit
      · decide
      · rcases literal.exponent_sign sign digits isExponent with rfl | rfl | rfl
        · cases inSign
        · rw [mem_singleton.mp inSign]
          decide
        · rw [mem_singleton.mp inSign]
          decide
      · exact isNumberChar_of_digit ((literal.exponent_digits sign digits isExponent).2 c digit)

theorem isNumberChar_float {value : F} (finite : (floats.value value).isSome = true)
    (member : c ∈ floats.repr value) : isNumberChar c = true := by
  obtain ⟨literal, isText⟩ := floats.repr_literal value finite
  exact isNumberChar_literal literal (isText ▸ member)

/-! ## What a text starts with -/

def StartsNumber (text : List Char) : Prop :=
  ∃ negative d rest, isAsciiDigit d = true ∧ text = signText negative ++ d :: rest

theorem ne_of_isAsciiDigit {c d : Char} (digit : isAsciiDigit d = true)
    (other : isAsciiDigit c = false) : d ≠ c := by
  rintro rfl
  rw [digit] at other
  cases other

theorem readPart_number {fuel : Nat} {text : List Char} (starts : StartsNumber text) :
    readPart floats (fuel + 1) .value text = readNumber floats text := by
  obtain ⟨negative, d, rest, digit, rfl⟩ := starts
  have ne : ∀ {c : Char}, isAsciiDigit c = false -> d ≠ c := ne_of_isAsciiDigit digit
  have infinity : d ≠ 'I' := ne (by decide)
  cases negative with
  | true =>
    simp [readPart, readWord, signText, infinity.symm]
  | false =>
    have quote : d ≠ '"' := ne (by decide)
    have brace : d ≠ '{' := ne (by decide)
    have bracket : d ≠ '[' := ne (by decide)
    have null : d ≠ 'n' := ne (by decide)
    have true_ : d ≠ 't' := ne (by decide)
    have false_ : d ≠ 'f' := ne (by decide)
    have nan : d ≠ 'N' := ne (by decide)
    have minus : d ≠ '-' := ne (by decide)
    simp [readPart, readWord, signText, quote, brace, bracket, null.symm, true_.symm, false_.symm, nan.symm,
      infinity.symm, minus.symm]

theorem startsNumber_append {digits rest : List Char} (nonempty : digits ≠ [])
    (all : ∀ c, c ∈ digits -> isAsciiDigit c = true) :
    StartsNumber (signText negative ++ (digits ++ rest)) := by
  cases digits with
  | nil => exact absurd rfl nonempty
  | cons d digits => exact ⟨negative, d, digits ++ rest, all d mem_cons_self, rfl⟩

theorem startsNumber_int (value : Int) (tail : List Char) :
    StartsNumber ((toString value).toList ++ tail) := by
  rw [toString_eq_signText, append_assoc]
  exact startsNumber_append Nat.toDigits_ne_nil (fun c member => isAsciiDigit_of_isDigit
    (Nat.isDigit_of_mem_toDigits (b := 10) (by decide) (by decide) member))

theorem startsNumber_float {value : F} (finite : (floats.value value).isSome = true)
    (tail : List Char) : StartsNumber (floats.repr value ++ tail) := by
  obtain ⟨literal, isText⟩ := floats.repr_literal value finite
  rw [← isText, FloatLiteral.text, append_assoc, append_assoc]
  exact startsNumber_append literal.whole_ne_nil literal.whole_digits

def StartsValue (text : List Char) : Prop :=
  ∃ c rest, text = c :: rest ∧ isBlank c = false ∧ c ≠ ']'

theorem StartsNumber.startsValue {text : List Char} (starts : StartsNumber text) :
    StartsValue text := by
  obtain ⟨negative, d, rest, digit, rfl⟩ := starts
  cases negative with
  | true => exact ⟨'-', d :: rest, rfl, by decide, by decide⟩
  | false =>
    have ne : ∀ {c : Char}, isAsciiDigit c = false -> d ≠ c := ne_of_isAsciiDigit digit
    refine ⟨d, rest, rfl, ?_, ne (by decide)⟩
    simp [isBlank, ne (c := ' ') (by decide), ne (c := '\t') (by decide),
      ne (c := '\n') (by decide), ne (c := '\r') (by decide)]

theorem startsValue_text {value : Value F} (ok : writable floats value = true) (tail : List Char) :
    StartsValue (text floats value ++ tail) := by
  cases value with
  | null => exact ⟨_, _, rfl, by decide, by decide⟩
  | bool value => cases value <;> exact ⟨_, _, rfl, by decide, by decide⟩
  | int value => exact (startsNumber_int value tail).startsValue
  | float value => exact (startsNumber_float floats ok tail).startsValue
  | str value => exact ⟨_, _, rfl, by decide, by decide⟩
  | arr items => cases items <;> exact ⟨_, _, rfl, by decide, by decide⟩
  | obj fields => cases fields <;> exact ⟨_, _, rfl, by decide, by decide⟩

theorem StartsValue.skipBlanks_eq {text : List Char} (starts : StartsValue text) :
    skipBlanks text = text := by
  obtain ⟨c, rest, rfl, visible, _⟩ := starts
  rw [skipBlanks, if_neg (Bool.eq_false_iff.mp visible)]

/-! ## Values -/

mutual

def steps : Value F -> Nat
  | .arr items => 1 + itemSteps items
  | .obj fields => 1 + fieldSteps fields
  | .null => 1
  | .bool _ => 1
  | .int _ => 1
  | .float _ => 1
  | .str _ => 1

def itemSteps : List (Value F) -> Nat
  | [] => 0
  | item :: rest => 1 + steps item + itemSteps rest

def fieldSteps : List (String × Value F) -> Nat
  | [] => 0
  | (_, value) :: rest => 1 + steps value + fieldSteps rest

end

section Steps

variable {fuel : Nat} {source rest : List Char}

theorem readPart_item_comma {read : List (Value F)} {item : Value F}
    (first : readPart floats fuel .value source = .ok (item, ',' :: rest))
    (starts : StartsValue rest) :
    readPart floats (fuel + 1) (.items read) source =
      readPart floats fuel (.items (item :: read)) rest := by
  rw [readPart.eq_6, first]
  change readPart floats fuel (.items (item :: read)) (skipBlanks rest) = _
  rw [starts.skipBlanks_eq]

theorem readPart_item_close {read : List (Value F)} {item : Value F}
    (first : readPart floats fuel .value source = .ok (item, ']' :: rest)) :
    readPart floats (fuel + 1) (.items read) source = .ok (.arr (item :: read).reverse, rest) := by
  rw [readPart.eq_6, first]
  rfl

theorem readPart_field {read : List (String × Value F)} {key : String} {value : Value F}
    (first : readPart floats fuel .value source = .ok (value, rest)) (starts : StartsValue source) :
    readPart floats (fuel + 1) (.fields read)
        ('"' :: (key.toList.flatMap plainEscape ++ '"' :: ':' :: source)) =
      match skipBlanks rest with
      | ',' :: rest => readPart floats fuel (.fields ((key, value) :: read)) (skipBlanks rest)
      | '}' :: rest =>
        if (((key, value) :: read).map Prod.fst).Nodup then
          .ok (.obj ((key, value) :: read).reverse, rest)
        else .error .duplicateField
      | _ => .error .malformed := by
  rw [readPart.eq_7, readString_quoted]
  change (readPart floats fuel .value (skipBlanks source) >>= _) = _
  rw [starts.skipBlanks_eq, first]
  rfl

theorem readPart_field_comma {read : List (String × Value F)} {key : String} {value : Value F}
    (first : readPart floats fuel .value source = .ok (value, ',' :: '"' :: rest))
    (starts : StartsValue source) :
    readPart floats (fuel + 1) (.fields read)
        ('"' :: (key.toList.flatMap plainEscape ++ '"' :: ':' :: source)) =
      readPart floats fuel (.fields ((key, value) :: read)) ('"' :: rest) :=
  readPart_field floats first starts

theorem readPart_field_close {read : List (String × Value F)} {key : String} {value : Value F}
    (first : readPart floats fuel .value source = .ok (value, '}' :: rest))
    (starts : StartsValue source) (nodup : (((key, value) :: read).map Prod.fst).Nodup) :
    readPart floats (fuel + 1) (.fields read)
        ('"' :: (key.toList.flatMap plainEscape ++ '"' :: ':' :: source)) =
      .ok (.obj ((key, value) :: read).reverse, rest) :=
  (readPart_field floats first starts).trans (if_pos nodup)

end Steps

theorem steps_pos (value : Value F) : 0 < steps value := by
  cases value with
  | arr items => exact Nat.add_pos_left (by decide) _
  | obj fields => exact Nat.add_pos_left (by decide) _
  | null => exact Nat.one_pos
  | bool value => exact Nat.one_pos
  | int value => exact Nat.one_pos
  | float value => exact Nat.one_pos
  | str value => exact Nat.one_pos

theorem follows_items (rest : List (Value F)) (tail : List Char) :
    Follows (itemsText floats rest ++ ']' :: tail) := by
  intro c isHead
  cases rest with
  | nil =>
    cases isHead
    exact Or.inr (Or.inl rfl)
  | cons next rest =>
    cases isHead
    exact Or.inl rfl

theorem follows_fields (rest : List (String × Value F)) (tail : List Char) :
    Follows (fieldsText floats rest ++ '}' :: tail) := by
  intro c isHead
  cases rest with
  | nil =>
    cases isHead
    exact Or.inr (Or.inr rfl)
  | cons next rest =>
    cases isHead
    exact Or.inl rfl

mutual

theorem readPart_text : ∀ (value : Value F) (fuel : Nat) (tail : List Char),
    writable floats value = true -> distinctKeys value -> steps value ≤ fuel -> Follows tail ->
    readPart floats fuel .value (text floats value ++ tail) = .ok (value, tail)
  | value, 0, tail, _, _, enough, _ => absurd enough (not_le.mpr (steps_pos value))
  | .null, fuel + 1, tail, _, _, _, _ => by
      simp [text, readPart, readWord]
  | .bool true, fuel + 1, tail, _, _, _, _ => by
      simp [text, readPart, readWord]
  | .bool false, fuel + 1, tail, _, _, _, _ => by
      simp [text, readPart, readWord]
  | .int value, fuel + 1, tail, ok, _, _, follows => by
      rw [text, readPart_number floats (startsNumber_int value tail)]
      exact readNumber_int floats (of_decide_eq_true ok) follows
  | .float value, fuel + 1, tail, ok, _, _, follows => by
      rw [text, readPart_number floats (startsNumber_float floats ok tail)]
      exact readNumber_float floats ok follows
  | .str value, fuel + 1, tail, _, _, _, _ => by
      have written : text floats (.str value) ++ tail =
          '"' :: (value.toList.flatMap plainEscape ++ '"' :: tail) := by
        simp [text, plainQuoted]
      rw [written, readPart.eq_2, readString_quoted]
      rfl
  | .arr [], fuel + 1, tail, _, _, _, _ => rfl
  | .arr (item :: rest), fuel + 1, tail, ok, distinct, enough, follows => by
      have okItem : writable floats item = true := (Bool.and_eq_true_iff.mp ok).1
      have written : text floats (.arr (item :: rest)) ++ tail =
          '[' :: (text floats item ++ (itemsText floats rest ++ ']' :: tail)) := by
        simp [text]
      have starts := startsValue_text floats okItem (itemsText floats rest ++ ']' :: tail)
      have read := readPart_items item rest fuel [] tail ok distinct (by rw [steps] at enough; omega)
      rw [written, readPart.eq_4, starts.skipBlanks_eq]
      obtain ⟨c, more, isText, _, open_⟩ := starts
      rw [isText] at read ⊢
      split
      case h_1 same => exact absurd (List.cons.inj same).1 open_
      case h_2 => exact read
  | .obj [], fuel + 1, tail, _, _, _, _ => rfl
  | .obj ((key, value) :: rest), fuel + 1, tail, ok, distinct, enough, follows => by
      have written : text floats (.obj ((key, value) :: rest)) ++ tail =
          '{' :: ('"' :: (key.toList.flatMap plainEscape ++ '"' ::
            ':' :: (text floats value ++ (fieldsText floats rest ++ '}' :: tail)))) := by
        simp [text, plainQuoted]
      rw [written, readPart.eq_3]
      exact readPart_fields key value rest fuel [] tail ok distinct.2 distinct.1
        (by rw [steps] at enough; omega)

theorem readPart_items : ∀ (item : Value F) (rest : List (Value F)) (fuel : Nat)
    (read : List (Value F)) (tail : List Char),
    writableItems floats (item :: rest) = true -> distinctItems (item :: rest) ->
    itemSteps (item :: rest) ≤ fuel ->
    readPart floats fuel (.items read) (text floats item ++ (itemsText floats rest ++ ']' :: tail)) =
      .ok (.arr (read.reverse ++ item :: rest), tail)
  | item, rest, 0, read, tail, ok, distinct, enough => by
      simp [itemSteps] at enough
  | item, [], fuel + 1, read, tail, ok, distinct, enough => by
      have first := readPart_text item fuel (']' :: tail) (Bool.and_eq_true_iff.mp ok).1 distinct.1
        (by simp only [itemSteps] at enough; omega) (follows_items floats [] tail)
      rw [itemsText, nil_append, readPart_item_close floats first, reverse_cons]
  | item, next :: rest, fuel + 1, read, tail, ok, distinct, enough => by
      obtain ⟨okItem, okRest⟩ := Bool.and_eq_true_iff.mp ok
      have few : steps item ≤ fuel ∧ itemSteps (next :: rest) ≤ fuel := by
        rw [itemSteps] at enough
        omega
      have first := readPart_text item fuel (itemsText floats (next :: rest) ++ ']' :: tail) okItem
        distinct.1 few.1 (follows_items floats (next :: rest) tail)
      have later := readPart_items next rest fuel (item :: read) tail okRest distinct.2 few.2
      have starts := startsValue_text floats (Bool.and_eq_true_iff.mp okRest).1
        (itemsText floats rest ++ ']' :: tail)
      have step : readPart floats (fuel + 1) (.items read)
          (text floats item ++ (itemsText floats (next :: rest) ++ ']' :: tail)) =
          readPart floats fuel (.items (item :: read))
            (text floats next ++ (itemsText floats rest ++ ']' :: tail)) := by
        refine readPart_item_comma floats ?_ starts
        rw [first, itemsText, cons_append, append_assoc]
      rw [step, later, reverse_cons, append_assoc, singleton_append]

theorem readPart_fields : ∀ (key : String) (value : Value F) (rest : List (String × Value F))
    (fuel : Nat) (read : List (String × Value F)) (tail : List Char),
    writableFields floats ((key, value) :: rest) = true -> distinctFields ((key, value) :: rest) ->
    ((read.reverse ++ (key, value) :: rest).map Prod.fst).Nodup ->
    fieldSteps ((key, value) :: rest) ≤ fuel ->
    readPart floats fuel (.fields read) ('"' :: (key.toList.flatMap plainEscape ++ '"' ::
        ':' :: (text floats value ++ (fieldsText floats rest ++ '}' :: tail)))) =
      .ok (.obj (read.reverse ++ (key, value) :: rest), tail)
  | key, value, rest, 0, read, tail, ok, distinct, nodup, enough => by
      simp [fieldSteps] at enough
  | key, value, [], fuel + 1, read, tail, ok, distinct, nodup, enough => by
      have okValue : writable floats value = true := (Bool.and_eq_true_iff.mp ok).1
      have first := readPart_text value fuel ('}' :: tail) okValue distinct.1
        (by simp only [fieldSteps] at enough; omega) (follows_fields floats [] tail)
      have unread : (((key, value) :: read).map Prod.fst).Nodup := by
        rw [← nodup_reverse, ← map_reverse, reverse_cons]
        exact nodup
      rw [fieldsText, nil_append, readPart_field_close floats first
        (startsValue_text floats okValue ('}' :: tail)) unread, reverse_cons]
  | key, value, (nextKey, next) :: rest, fuel + 1, read, tail, ok, distinct, nodup, enough => by
      obtain ⟨okValue, okRest⟩ := Bool.and_eq_true_iff.mp ok
      have few : steps value ≤ fuel ∧ fieldSteps ((nextKey, next) :: rest) ≤ fuel := by
        rw [fieldSteps] at enough
        omega
      have first := readPart_text value fuel (fieldsText floats ((nextKey, next) :: rest) ++ '}' :: tail)
        okValue distinct.1 few.1 (follows_fields floats ((nextKey, next) :: rest) tail)
      have later := readPart_fields nextKey next rest fuel ((key, value) :: read) tail okRest distinct.2
        (by simpa only [reverse_cons, append_assoc, singleton_append] using nodup) few.2
      have step : readPart floats (fuel + 1) (.fields read)
          ('"' :: (key.toList.flatMap plainEscape ++ '"' ::
            ':' :: (text floats value ++ (fieldsText floats ((nextKey, next) :: rest) ++ '}' :: tail)))) =
          readPart floats fuel (.fields ((key, value) :: read))
            ('"' :: (nextKey.toList.flatMap plainEscape ++ '"' ::
              ':' :: (text floats next ++ (fieldsText floats rest ++ '}' :: tail)))) := by
        refine readPart_field_comma floats ?_ (startsValue_text floats okValue _)
        rw [first]
        simp [fieldsText, plainQuoted]
      rw [step, later, reverse_cons, append_assoc, singleton_append]

end

mutual

theorem steps_le : ∀ value : Value F, writable floats value = true ->
    steps value ≤ 2 * (text floats value).length
  | .null, _ => by simp [steps, text]
  | .bool true, _ => by simp [steps, text]
  | .bool false, _ => by simp [steps, text]
  | .int value, ok => by
      obtain ⟨c, rest, isText, _⟩ := startsValue_text floats ok []
      rw [append_nil] at isText
      rw [isText, steps, length_cons]
      omega
  | .float value, ok => by
      obtain ⟨c, rest, isText, _⟩ := startsValue_text floats ok []
      rw [append_nil] at isText
      rw [isText, steps, length_cons]
      omega
  | .str value, _ => by
      simp only [text, plainQuoted, steps, length_cons]
      omega
  | .arr [], _ => by simp [steps, itemSteps, text]
  | .arr (item :: rest), ok => by
      obtain ⟨okItem, okRest⟩ := Bool.and_eq_true_iff.mp ok
      have first := steps_le item okItem
      have later := itemSteps_le rest okRest
      simp only [text, steps, itemSteps, length_cons, length_append, length_nil]
      omega
  | .obj [], _ => by simp [steps, fieldSteps, text]
  | .obj ((key, value) :: rest), ok => by
      obtain ⟨okValue, okRest⟩ := Bool.and_eq_true_iff.mp ok
      have first := steps_le value okValue
      have later := fieldSteps_le rest okRest
      simp only [text, steps, fieldSteps, length_cons, length_append, length_nil]
      omega

theorem itemSteps_le : ∀ rest : List (Value F), writableItems floats rest = true ->
    itemSteps rest ≤ 2 * (itemsText floats rest).length
  | [], _ => Nat.zero_le _
  | item :: rest, ok => by
      obtain ⟨okItem, okRest⟩ := Bool.and_eq_true_iff.mp ok
      have first := steps_le item okItem
      have later := itemSteps_le rest okRest
      simp only [itemsText, itemSteps, length_cons, length_append]
      omega

theorem fieldSteps_le : ∀ rest : List (String × Value F), writableFields floats rest = true ->
    fieldSteps rest ≤ 2 * (fieldsText floats rest).length
  | [], _ => Nat.zero_le _
  | (key, value) :: rest, ok => by
      obtain ⟨okValue, okRest⟩ := Bool.and_eq_true_iff.mp ok
      have first := steps_le value okValue
      have later := fieldSteps_le rest okRest
      simp only [fieldsText, fieldSteps, length_cons, length_append]
      omega

end

theorem rawDecodeValue_text {value : Value F} (ok : writable floats value = true)
    (distinct : distinctKeys value) :
    rawDecodeValue floats (text floats value) = .ok (value, []) := by
  have read := readPart_text floats value (2 * (text floats value).length + 2) [] ok distinct
    ((steps_le floats value ok).trans (Nat.le_add_right _ _)) follows_nil
  rw [append_nil] at read
  exact read

end Numbers

end Json

end Foundation
end ZepGpu
