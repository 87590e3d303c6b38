import ZepGpu.Foundation.JsonRoundTrip

namespace ZepGpu
namespace Foundation

/-!
# A limit on the nesting of a text

A reader that recurses is protected by a scan of the text for its brackets, which
does not read the values.  On a text that the writer has made, the scan sees the
depth of the value: it refuses the text exactly when the value is too deep.
-/

namespace Json

/-- Whether the brackets of a text are nested beyond the limit.  The scan ends where
more is closed than was opened. -/
def nestsBeyond (limit depth : Nat) (inString escaped : Bool) : List Char -> Bool
  | [] => false
  | c :: rest =>
    if inString then
      if escaped then nestsBeyond limit depth true false rest
      else if c = '\\' then nestsBeyond limit depth true true rest
      else if c = '"' then nestsBeyond limit depth false false rest
      else nestsBeyond limit depth true false rest
    else if c = '"' then nestsBeyond limit depth true false rest
    else if c = '[' ∨ c = '{' then
      if limit < depth + 1 then true else nestsBeyond limit (depth + 1) false false rest
    else if c = ']' ∨ c = '}' then
      if depth = 0 then false else nestsBeyond limit (depth - 1) false false rest
    else nestsBeyond limit depth false false rest

section Nesting

variable {F : Type} (floats : Floats F) {limit : Nat}

/-- The characters that the scan looks at outside of strings. -/
def isMark (c : Char) : Bool :=
  c = '"' || c = '[' || c = '{' || c = ']' || c = '}'

theorem nestsBeyond_plain {depth : Nat} {word : List Char}
    (plain : ∀ c, c ∈ word -> isMark c = false) (tail : List Char) :
    nestsBeyond limit depth false false (word ++ tail) = nestsBeyond limit depth false false tail := by
  induction word with
  | nil => rfl
  | cons c rest ih =>
    have notMark := plain c List.mem_cons_self
    simp only [isMark, Bool.or_eq_false_iff, decide_eq_false_iff_not] at notMark
    have open_ : ¬ (c = '[' ∨ c = '{') := not_or.mpr ⟨notMark.1.1.1.2, notMark.1.1.2⟩
    have close : ¬ (c = ']' ∨ c = '}') := not_or.mpr ⟨notMark.1.2, notMark.2⟩
    rw [List.cons_append, nestsBeyond]
    simp only [Bool.false_eq_true, if_false, if_neg notMark.1.1.1.1, if_neg open_, if_neg close]
    exact ih (fun other member => plain other (List.mem_cons_of_mem _ member))

theorem isMark_of_isNumberChar {c : Char} (number : isNumberChar c = true) : isMark c = false := by
  have ne : ∀ {other : Char}, isNumberChar other = false -> c ≠ other := by
    rintro other notNumber rfl
    rw [number] at notNumber
    cases notNumber
  simp only [isMark, Bool.or_eq_false_iff, decide_eq_false_iff_not]
  exact ⟨⟨⟨⟨ne (by decide), ne (by decide)⟩, ne (by decide)⟩, ne (by decide)⟩, ne (by decide)⟩

theorem nestsBeyond_number {depth : Nat} {number : List Char}
    (plain : ∀ c, c ∈ number -> isNumberChar c = true) (tail : List Char) :
    nestsBeyond limit depth false false (number ++ tail) =
      nestsBeyond limit depth false false tail :=
  nestsBeyond_plain (fun c member => isMark_of_isNumberChar (plain c member)) tail

theorem nestsBeyond_plainEscape (depth : Nat) (c : Char) (tail : List Char) :
    nestsBeyond limit depth true false (plainEscape c ++ tail) =
      nestsBeyond limit depth true false tail := by
  have digit : ∀ n : Nat, Nat.digitChar (n % 16) ≠ '\\' ∧ Nat.digitChar (n % 16) ≠ '"' := by
    intro n
    have small : n % 16 < 16 := Nat.mod_lt _ (by decide)
    interval_cases n % 16 <;> decide
  unfold plainEscape
  split_ifs with quote slash newline return_ tab backspace feed control
  · rfl
  · rfl
  · rfl
  · rfl
  · rfl
  · rfl
  · rfl
  · simp [hex4, nestsBeyond, digit]
  · simp [nestsBeyond, quote, slash]

theorem nestsBeyond_escaped (depth : Nat) (chars tail : List Char) :
    nestsBeyond limit depth true false (chars.flatMap plainEscape ++ '"' :: tail) =
      nestsBeyond limit depth false false tail := by
  induction chars with
  | nil => rfl
  | cons c chars ih => rw [List.flatMap_cons, List.append_assoc, nestsBeyond_plainEscape, ih]

theorem nestsBeyond_quoted (depth : Nat) (value : String) (tail : List Char) :
    nestsBeyond limit depth false false (plainQuoted value ++ tail) =
      nestsBeyond limit depth false false tail := by
  rw [plainQuoted, List.cons_append, List.append_assoc]
  exact nestsBeyond_escaped depth value.toList tail

theorem nestsBeyond_open {bracket : Char} (isOpen : bracket = '[' ∨ bracket = '{') (depth : Nat)
    (rest : List Char) :
    nestsBeyond limit depth false false (bracket :: rest) =
      if limit < depth + 1 then true else nestsBeyond limit (depth + 1) false false rest := by
  rcases isOpen with rfl | rfl
  · simp [nestsBeyond]
  · simp [nestsBeyond]

theorem nestsBeyond_close {bracket : Char} (isClose : bracket = ']' ∨ bracket = '}') (depth : Nat)
    (rest : List Char) :
    nestsBeyond limit (depth + 1) false false (bracket :: rest) =
      nestsBeyond limit depth false false rest := by
  rcases isClose with rfl | rfl
  · simp [nestsBeyond]
  · simp [nestsBeyond]

theorem nestsBeyond_comma (depth : Nat) (rest : List Char) :
    nestsBeyond limit depth false false (',' :: rest) = nestsBeyond limit depth false false rest :=
  rfl

theorem nestsBeyond_colon (depth : Nat) (rest : List Char) :
    nestsBeyond limit depth false false (':' :: rest) = nestsBeyond limit depth false false rest :=
  rfl

theorem nestsBeyond_bracketed {opening closing : Char} (isOpen : opening = '[' ∨ opening = '{')
    (isClose : closing = ']' ∨ closing = '}') {depth inner : Nat} (inside : List Char)
    {tail : List Char}
    (scanned : depth + 1 ≤ limit -> (nestsBeyond limit (depth + 1) false false
      (inside ++ closing :: tail) = true ↔ limit < depth + 1 + inner ∨
        nestsBeyond limit (depth + 1) false false (closing :: tail) = true)) :
    nestsBeyond limit depth false false (opening :: (inside ++ closing :: tail)) = true ↔
      limit < depth + (1 + inner) ∨ nestsBeyond limit depth false false tail = true := by
  rw [nestsBeyond_open isOpen, ← Nat.add_assoc]
  by_cases tooDeep : limit < depth + 1
  · rw [if_pos tooDeep]
    exact iff_of_true rfl (Or.inl (by omega))
  · rw [if_neg tooDeep, scanned (not_lt.mp tooDeep), nestsBeyond_close isClose]

theorem lt_add_max_iff {depth first second : Nat} :
    limit < depth + max first second ↔ limit < depth + first ∨ limit < depth + second := by
  omega

mutual

theorem nestsBeyond_text : ∀ (value : Value F) (depth : Nat) (tail : List Char),
    writable floats value = true -> depth ≤ limit ->
    (nestsBeyond limit depth false false (text floats value ++ tail) = true ↔
      limit < depth + Json.depth value ∨ nestsBeyond limit depth false false tail = true)
  | .null, _, _, _, shallow => (or_iff_right (not_lt.mpr shallow)).symm
  | .bool true, _, _, _, shallow => (or_iff_right (not_lt.mpr shallow)).symm
  | .bool false, _, _, _, shallow => (or_iff_right (not_lt.mpr shallow)).symm
  | .int value, depth, tail, _, shallow => by
      rw [text, nestsBeyond_number (fun _ member => isNumberChar_int member)]
      exact (or_iff_right (not_lt.mpr shallow)).symm
  | .float value, depth, tail, ok, shallow => by
      rw [text, nestsBeyond_number (fun _ member => isNumberChar_float floats ok member)]
      exact (or_iff_right (not_lt.mpr shallow)).symm
  | .str value, depth, tail, _, shallow => by
      rw [text, nestsBeyond_quoted]
      exact (or_iff_right (not_lt.mpr shallow)).symm
  | .arr [], depth, tail, _, _ => by
      apply nestsBeyond_bracketed (Or.inl rfl) (Or.inl rfl) []
      exact fun shallow => (or_iff_right (not_lt.mpr shallow)).symm
  | .arr (item :: rest), depth, tail, ok, _ => by
      obtain ⟨okItem, okRest⟩ := Bool.and_eq_true_iff.mp ok
      have shape : text floats (.arr (item :: rest)) ++ tail =
          '[' :: ((text floats item ++ itemsText floats rest) ++ ']' :: tail) := by
        simp [text]
      rw [shape]
      apply nestsBeyond_bracketed (Or.inl rfl) (Or.inl rfl)
      intro shallow
      rw [List.append_assoc, nestsBeyond_text item (depth + 1) _ okItem shallow,
        nestsBeyond_items rest (depth + 1) _ okRest shallow, itemsDepth, ← or_assoc,
        lt_add_max_iff]
  | .obj [], depth, tail, _, _ => by
      apply nestsBeyond_bracketed (Or.inr rfl) (Or.inr rfl) []
      exact fun shallow => (or_iff_right (not_lt.mpr shallow)).symm
  | .obj ((key, value) :: rest), depth, tail, ok, _ => by
      obtain ⟨okValue, okRest⟩ := Bool.and_eq_true_iff.mp ok
      have shape : text floats (.obj ((key, value) :: rest)) ++ tail =
          '{' :: ((plainQuoted key ++ ':' :: (text floats value ++ fieldsText floats rest)) ++
            '}' :: tail) := by
        simp [text]
      rw [shape]
      apply nestsBeyond_bracketed (Or.inr rfl) (Or.inr rfl)
      intro shallow
      rw [List.append_assoc, nestsBeyond_quoted, List.cons_append, nestsBeyond_colon,
        List.append_assoc, nestsBeyond_text value (depth + 1) _ okValue shallow,
        nestsBeyond_fields rest (depth + 1) _ okRest shallow, fieldsDepth, ← or_assoc,
        lt_add_max_iff]

theorem nestsBeyond_items : ∀ (rest : List (Value F)) (depth : Nat) (tail : List Char),
    writableItems floats rest = true -> depth ≤ limit ->
    (nestsBeyond limit depth false false (itemsText floats rest ++ tail) = true ↔
      limit < depth + itemsDepth rest ∨ nestsBeyond limit depth false false tail = true)
  | [], _, _, _, shallow => (or_iff_right (not_lt.mpr shallow)).symm
  | item :: rest, depth, tail, ok, shallow => by
      obtain ⟨okItem, okRest⟩ := Bool.and_eq_true_iff.mp ok
      rw [itemsText, List.cons_append, nestsBeyond_comma, List.append_assoc,
        nestsBeyond_text item depth _ okItem shallow,
        nestsBeyond_items rest depth tail okRest shallow, itemsDepth, ← or_assoc,
        lt_add_max_iff]

theorem nestsBeyond_fields : ∀ (rest : List (String × Value F)) (depth : Nat)
    (tail : List Char), writableFields floats rest = true -> depth ≤ limit ->
    (nestsBeyond limit depth false false (fieldsText floats rest ++ tail) = true ↔
      limit < depth + fieldsDepth rest ∨ nestsBeyond limit depth false false tail = true)
  | [], _, _, _, shallow => (or_iff_right (not_lt.mpr shallow)).symm
  | (key, value) :: rest, depth, tail, ok, shallow => by
      obtain ⟨okValue, okRest⟩ := Bool.and_eq_true_iff.mp ok
      rw [fieldsText, List.cons_append, nestsBeyond_comma, List.append_assoc, nestsBeyond_quoted,
        List.cons_append, nestsBeyond_colon, List.append_assoc,
        nestsBeyond_text value depth _ okValue shallow,
        nestsBeyond_fields rest depth tail okRest shallow, fieldsDepth, ← or_assoc,
        lt_add_max_iff]

end

theorem nestsBeyond_iff {value : Value F} (ok : writable floats value = true) :
    nestsBeyond limit 0 false false (text floats value) = true ↔ limit < depth value := by
  have scanned := nestsBeyond_text floats value 0 [] ok (Nat.zero_le limit)
  rw [List.append_nil, Nat.zero_add] at scanned
  exact scanned.trans (or_iff_left Bool.false_ne_true)

end Nesting

end Json

end Foundation
end ZepGpu
