import ZepGpu.Foundation.JsonGrammar

namespace ZepGpu
namespace Foundation
namespace Json

open List

/-!
# Descending into the containers of a text

A recursive reader of JSON opens a container at a bracket, reads what is inside
by calling itself and goes on after the closing bracket.  What it makes of strings,
words and whole containers is a parameter here, and so is what it refuses: all that
is asked is that a string ends at its quotation mark and that a word has no mark
in it.

Besides its result the reader gives the greatest number of containers that were
open at once before it finished or failed.
-/

/-- How scalars are read and containers are put together. -/
structure Scalars (ε κ α : Type) where
  /-- A string from after its opening quotation mark. -/
  readString : List Char -> Except ε (κ × List Char)
  /-- Whatever does not begin with a quotation mark or an opening bracket. -/
  readWord : List Char -> Except ε (α × List Char)
  ofString : κ -> α
  ofItems : List α -> Except ε α
  ofFields : List (κ × α) -> Except ε α
  malformed : ε
  string_body : ∀ {text key rest}, readString text = .ok (key, rest) ->
    ∃ body, StringBody body ∧ text = body ++ '"' :: rest
  word_plain : ∀ {text value rest}, readWord text = .ok (value, rest) ->
    ∃ word, word ≠ [] ∧ (∀ c, c ∈ word -> isMark c = false) ∧ text = word ++ rest

/-- What is being read, with what has been read of it, last first. -/
inductive Place (κ α : Type) where
  | value
  | items (read : List α)
  | fields (read : List (κ × α))

/-- The greatest number of containers that were open at once, and the result.  There
is no result when the reader was cut off. -/
structure Descent (ε α : Type) where
  peak : Nat
  result : Option (Except ε (α × List Char))

section Descent

variable {ε κ α : Type} (scalars : Scalars ε κ α)

def Descent.andThen (first : Descent ε α) (next : α -> List Char -> Descent ε α) : Descent ε α :=
  match first.result with
  | some (.ok (value, rest)) => ⟨max first.peak (next value rest).peak, (next value rest).result⟩
  | stopped => ⟨first.peak, stopped⟩

def close (opened : Nat) (made : Except ε α) (rest : List Char) : Descent ε α :=
  ⟨opened, some (made.map (fun value => (value, rest)))⟩

def refuse (opened : Nat) (error : ε) : Descent ε α :=
  ⟨opened, some (.error error)⟩

/-- The reader, with the number of open containers and a bound on the number of its
nested and repeated steps. -/
def descend : Nat -> Nat -> Place κ α -> List Char -> Descent ε α
  | 0, opened, _, _ => ⟨opened, none⟩
  | fuel + 1, opened, .value, text =>
    match text with
    | '"' :: rest =>
      ⟨opened, some ((scalars.readString rest).map (fun read => (scalars.ofString read.1, read.2)))⟩
    | '{' :: rest =>
      match skipBlanks rest with
      | '}' :: rest => close (opened + 1) (scalars.ofFields []) rest
      | rest => descend fuel (opened + 1) (.fields []) rest
    | '[' :: rest =>
      match skipBlanks rest with
      | ']' :: rest => close (opened + 1) (scalars.ofItems []) rest
      | rest => descend fuel (opened + 1) (.items []) rest
    | text => ⟨opened, some (scalars.readWord text)⟩
  | fuel + 1, opened, .items read, text =>
    (descend fuel opened .value text).andThen (fun item rest =>
      match skipBlanks rest with
      | ',' :: rest => descend fuel opened (.items (item :: read)) (skipBlanks rest)
      | ']' :: rest => close opened (scalars.ofItems (item :: read).reverse) rest
      | _ => refuse opened scalars.malformed)
  | fuel + 1, opened, .fields read, text =>
    match text with
    | '"' :: rest =>
      match scalars.readString rest with
      | .error error => refuse opened error
      | .ok (key, rest) =>
        match skipBlanks rest with
        | ':' :: rest =>
          (descend fuel opened .value (skipBlanks rest)).andThen (fun value rest =>
            match skipBlanks rest with
            | ',' :: rest =>
              descend fuel opened (.fields ((key, value) :: read)) (skipBlanks rest)
            | '}' :: rest => close opened (scalars.ofFields ((key, value) :: read).reverse) rest
            | _ => refuse opened scalars.malformed)
        | _ => refuse opened scalars.malformed
    | _ => refuse opened scalars.malformed

/-- How many of the open containers are still open once the reader is done here. -/
def Place.left (opened : Nat) : Place κ α -> Nat
  | .value => opened
  | .items _ | .fields _ => opened - 1

/-! ## Blanks -/

variable {scalars} {limit opened fuel : Nat} {text rest : List Char}

theorem exists_blanks (text : List Char) :
    ∃ before, Blanks before ∧ text = before ++ skipBlanks text := by
  induction text with
  | nil =>
    refine ⟨[], ?_, rfl⟩
    intro c impossible
    cases impossible
  | cons c rest ih =>
    rw [skipBlanks]
    split_ifs with blank
    · rcases ih with ⟨before, blanks, split⟩
      refine ⟨c :: before, ?_, congrArg (c :: ·) split⟩
      intro other member
      rcases mem_cons.mp member with rfl | inside
      · exact blank
      · exact blanks other inside
    · refine ⟨[], ?_, rfl⟩
      intro other impossible
      cases impossible

theorem nestsBeyond_skipBlanks (depth : Nat) (text : List Char) :
    nestsBeyond limit depth false false (skipBlanks text) = nestsBeyond limit depth false false text := by
  rcases exists_blanks text with ⟨before, blanks, split⟩
  conv_rhs => rw [split]
  exact (nestsBeyond_blanks blanks depth _).symm

theorem length_skipBlanks_le (text : List Char) : (skipBlanks text).length ≤ text.length := by
  rcases exists_blanks text with ⟨before, _, split⟩
  conv_rhs => rw [split]
  rw [length_append]
  exact Nat.le_add_left _ _

/-! ## The bound -/

theorem accepted_rest {c : Char} (plain : isMark c = false)
    (accepted : nestsBeyond limit opened false false (c :: rest) = false) :
    nestsBeyond limit opened false false rest = false := by
  have skipped : nestsBeyond limit opened false false ([c] ++ rest) =
      nestsBeyond limit opened false false rest := by
    apply nestsBeyond_plain
    intro other member
    rw [mem_singleton.mp member]
    exact plain
  exact skipped.symm.trans accepted

theorem accepted_open {bracket : Char} (isOpen : bracket = '[' ∨ bracket = '{')
    (accepted : nestsBeyond limit opened false false (bracket :: rest) = false) :
    opened + 1 ≤ limit ∧ nestsBeyond limit (opened + 1) false false rest = false := by
  rw [nestsBeyond_open isOpen] at accepted
  split_ifs at accepted with tooDeep
  exact ⟨not_lt.mp tooDeep, accepted⟩

theorem accepted_close {bracket : Char} (isClose : bracket = ']' ∨ bracket = '}') (within : 0 < opened)
    (accepted : nestsBeyond limit opened false false (bracket :: rest) = false) :
    nestsBeyond limit (opened - 1) false false rest = false := by
  rw [← Nat.sub_add_cancel within, nestsBeyond_close isClose] at accepted
  exact accepted

theorem accepted_string {body : List Char} (isBody : StringBody body)
    (accepted : nestsBeyond limit opened false false ('"' :: (body ++ '"' :: rest)) = false) :
    nestsBeyond limit opened false false rest = false :=
  (nestsBeyond_stringBody isBody opened rest).symm.trans accepted

theorem accepted_blanks (accepted : nestsBeyond limit opened false false text = false) :
    nestsBeyond limit opened false false (skipBlanks text) = false :=
  (nestsBeyond_skipBlanks opened text).trans accepted

/-- What is known of a reader that started where the scan accepts: it has not gone
beyond the limit, it is not cut off with enough steps, and it leaves less of the text,
which the scan accepts at the depth where it is left. -/
structure Guarded (limit left : Nat) (text : List Char) (enough : Prop) (descent : Descent ε α) : Prop where
  peak_le : descent.peak ≤ limit
  isSome : enough -> descent.result.isSome = true
  leaves : ∀ value rest, descent.result = some (.ok (value, rest)) ->
    rest.length < text.length ∧ nestsBeyond limit left false false rest = false

variable {left : Nat} {enough : Prop}

theorem Guarded.mono {longer : List Char} {more : Prop} {descent : Descent ε α}
    (guarded : Guarded limit left text enough descent) (le : text.length ≤ longer.length)
    (suffices_ : more -> enough) : Guarded limit left longer more descent where
  peak_le := guarded.peak_le
  isSome := fun given => guarded.isSome (suffices_ given)
  leaves := by
    intro value rest same
    have leaves := guarded.leaves value rest same
    exact ⟨leaves.1.trans_le le, leaves.2⟩

theorem guarded_refuse {error : ε} (within : opened ≤ limit) :
    Guarded limit left text enough (refuse opened error : Descent ε α) where
  peak_le := within
  isSome := fun _ => rfl
  leaves := by
    intro value rest impossible
    cases impossible

theorem guarded_close {made : Except ε α} (within : opened ≤ limit) (shorter : rest.length < text.length)
    (accepted : nestsBeyond limit left false false rest = false) :
    Guarded limit left text enough (close opened made rest) where
  peak_le := within
  isSome := fun _ => rfl
  leaves := by
    intro value other same
    cases made with
    | error error => cases same
    | ok made =>
      cases same
      exact ⟨shorter, accepted⟩

theorem Guarded.andThen {first : Descent ε α} {next : α -> List Char -> Descent ε α} {between : Nat}
    (guarded : Guarded limit between text enough first)
    (goesOn : ∀ value rest, rest.length < text.length ->
      nestsBeyond limit between false false rest = false ->
        Guarded limit left text enough (next value rest)) :
    Guarded limit left text enough (first.andThen next) := by
  unfold Descent.andThen
  cases found : first.result with
  | none =>
    refine ⟨guarded.peak_le, ?_, ?_⟩
    · intro given
      have some_ := guarded.isSome given
      rw [found] at some_
      cases some_
    · intro value rest impossible
      cases impossible
  | some result =>
    cases result with
    | error error => exact guarded_refuse guarded.peak_le
    | ok read =>
      have leaves := guarded.leaves read.1 read.2 found
      have later := goesOn read.1 read.2 leaves.1 leaves.2
      exact ⟨max_le guarded.peak_le later.peak_le, later.isSome, later.leaves⟩

/-- The steps that a text needs: at most one for each opening bracket and one for
each value. -/
def Place.steps (length : Nat) : Place κ α -> Nat
  | .value => 2 * length + 1
  | .items _ | .fields _ => 2 * length + 2

def GuardedFor (scalars : Scalars ε κ α) (limit fuel : Nat) : Prop :=
  ∀ (opened : Nat) (place : Place κ α) (text : List Char), opened ≤ limit ->
    (place ≠ .value -> 0 < opened) -> nestsBeyond limit opened false false text = false ->
    Guarded limit (place.left opened) text (place.steps text.length ≤ fuel)
      (descend scalars fuel opened place text)

theorem length_lt_of_skipBlanks {c : Char} {text rest : List Char} (found : skipBlanks text = c :: rest) :
    rest.length < text.length := by
  have le := length_skipBlanks_le text
  rw [found, length_cons] at le
  exact le

section

variable (below : GuardedFor scalars limit fuel) (within : opened ≤ limit)

include below within

theorem guarded_value (accepted : nestsBeyond limit opened false false text = false) :
    Guarded limit opened text (2 * text.length + 1 ≤ fuel + 1)
      (descend scalars (fuel + 1) opened .value text) := by
  unfold descend
  split
  next _ rest =>
    refine ⟨within, fun _ => rfl, ?_⟩
    intro value left same
    cases found : scalars.readString rest with
    | error error =>
      rw [found] at same
      cases same
    | ok read =>
      rw [found] at same
      cases same
      rcases scalars.string_body found with ⟨body, isBody, rfl⟩
      refine ⟨?_, accepted_string isBody accepted⟩
      simp only [length_cons, length_append]
      omega
  next _ rest =>
    have entered := accepted_open (Or.inr rfl) accepted
    have inner := accepted_blanks entered.2
    have le := length_skipBlanks_le rest
    split
    next _ rest closed =>
      rw [closed] at inner
      exact guarded_close entered.1 ((length_lt_of_skipBlanks closed).trans (Nat.lt_succ_self _))
        (accepted_close (Or.inr rfl) (Nat.succ_pos opened) inner)
    next =>
      apply (below (opened + 1) (.fields []) _ entered.1 (fun _ => Nat.succ_pos opened) inner).mono
      · exact Nat.le_succ_of_le le
      · rw [Place.steps, length_cons]
        omega
  next _ rest =>
    have entered := accepted_open (Or.inl rfl) accepted
    have inner := accepted_blanks entered.2
    have le := length_skipBlanks_le rest
    split
    next _ rest closed =>
      rw [closed] at inner
      exact guarded_close entered.1 ((length_lt_of_skipBlanks closed).trans (Nat.lt_succ_self _))
        (accepted_close (Or.inl rfl) (Nat.succ_pos opened) inner)
    next =>
      apply (below (opened + 1) (.items []) _ entered.1 (fun _ => Nat.succ_pos opened) inner).mono
      · exact Nat.le_succ_of_le le
      · rw [Place.steps, length_cons]
        omega
  next =>
    refine ⟨within, fun _ => rfl, ?_⟩
    intro value rest same
    rcases scalars.word_plain (Option.some.inj same) with ⟨word, nonempty, plain, rfl⟩
    refine ⟨?_, (nestsBeyond_plain plain rest).symm.trans accepted⟩
    rw [length_append]
    exact Nat.lt_add_of_pos_left (length_pos_iff.mpr nonempty)

theorem guarded_inside (accepted : nestsBeyond limit opened false false text = false) :
    Guarded limit opened text (2 * text.length + 2 ≤ fuel + 1)
      (descend scalars fuel opened .value text) :=
  (below opened .value text within (fun other => absurd rfl other) accepted).mono le_rfl
    (fun enough => Nat.le_of_succ_le_succ enough)

theorem guarded_items (held : 0 < opened)
    (accepted : nestsBeyond limit opened false false text = false) (read : List α) :
    Guarded limit (opened - 1) text (2 * text.length + 2 ≤ fuel + 1)
      (descend scalars (fuel + 1) opened (.items read) text) := by
  unfold descend
  apply (guarded_inside below within accepted).andThen
  intro item rest shorter passed
  have behind := accepted_blanks passed
  split
  next _ next comma =>
    rw [comma] at behind
    have less := length_lt_of_skipBlanks comma
    have le := length_skipBlanks_le next
    apply (below opened (.items (item :: read)) _ within (fun _ => held)
      (accepted_blanks (accepted_rest rfl behind))).mono
    · omega
    · rw [Place.steps]
      omega
  next _ rest closed =>
    rw [closed] at behind
    exact guarded_close within ((length_lt_of_skipBlanks closed).trans shorter)
      (accepted_close (Or.inl rfl) held behind)
  next => exact guarded_refuse within

theorem guarded_fields (held : 0 < opened)
    (accepted : nestsBeyond limit opened false false text = false) (read : List (κ × α)) :
    Guarded limit (opened - 1) text (2 * text.length + 2 ≤ fuel + 1)
      (descend scalars (fuel + 1) opened (.fields read) text) := by
  unfold descend
  split
  next _ rest =>
    split
    next => exact guarded_refuse within
    next key rest found =>
      rcases scalars.string_body found with ⟨body, isBody, rfl⟩
      have named := accepted_blanks (accepted_string isBody accepted)
      split
      next _ value colon =>
        rw [colon] at named
        have less := length_lt_of_skipBlanks colon
        have le := length_skipBlanks_le value
        have longer : (skipBlanks value).length + 2 ≤ ('"' :: (body ++ '"' :: rest)).length := by
          simp only [length_cons, length_append]
          omega
        apply ((guarded_inside below within (accepted_blanks (accepted_rest rfl named))).mono
          (Nat.le_of_add_right_le longer) (fun enough => by omega)).andThen
        intro value rest shorter passed
        have behind := accepted_blanks passed
        split
        next _ next comma =>
          rw [comma] at behind
          have lessBehind := length_lt_of_skipBlanks comma
          have leBehind := length_skipBlanks_le next
          apply (below opened (.fields ((key, value) :: read)) _ within (fun _ => held)
            (accepted_blanks (accepted_rest rfl behind))).mono
          · omega
          · rw [Place.steps]
            omega
        next _ rest closed =>
          rw [closed] at behind
          exact guarded_close within ((length_lt_of_skipBlanks closed).trans shorter)
            (accepted_close (Or.inr rfl) held behind)
        next => exact guarded_refuse within
      next => exact guarded_refuse within
  next => exact guarded_refuse within

end

/-- Where the scan accepts, the reader never has more containers open than the limit,
and with two steps for each character it is not cut off. -/
theorem descend_guarded (scalars : Scalars ε κ α) (limit fuel : Nat) :
    GuardedFor scalars limit fuel := by
  induction fuel with
  | zero =>
    intro opened place text within _ _
    refine ⟨within, ?_, ?_⟩
    · intro enough
      cases place with
      | value => exact absurd enough (Nat.not_succ_le_zero _)
      | items read => exact absurd enough (Nat.not_succ_le_zero _)
      | fields read => exact absurd enough (Nat.not_succ_le_zero _)
    · intro value rest impossible
      cases impossible
  | succ fuel ih =>
    intro opened place text within inside accepted
    cases place with
    | value => exact guarded_value ih within accepted
    | items read =>
      exact guarded_items ih within (inside (fun impossible => nomatch impossible)) accepted read
    | fields read =>
      exact guarded_fields ih within (inside (fun impossible => nomatch impossible)) accepted read

end Descent

/-!
## The decoder as a descending reader

The reader of values is the descending reader over its own scalars.  So whatever
holds of every descending reader holds of the decoder behind the scan.
-/

section Decoder

variable {F : Type} (floats : Floats F)

theorem hexDigit?_plain {c : Char} {digit : Nat} (isDigit : hexDigit? c = some digit) :
    c ≠ '"' ∧ c ≠ '\\' := by
  constructor
  · rintro rfl
    cases isDigit
  · rintro rfl
    cases isDigit

theorem stringBody_code {a b c d : Char} {code : Nat} (isCode : code? a b c d = some code)
    {body : List Char} (others : StringBody body) :
    StringBody ('\\' :: 'u' :: a :: b :: c :: d :: body) := by
  simp only [code?, Option.bind_eq_bind, Option.bind_eq_some_iff] at isCode
  rcases isCode with ⟨_, first, _, second, _, third, _, fourth, _⟩
  have plainA := hexDigit?_plain first
  have plainB := hexDigit?_plain second
  have plainC := hexDigit?_plain third
  have plainD := hexDigit?_plain fourth
  exact .escape 'u' (.plain plainA.1 plainA.2 (.plain plainB.1 plainB.2
    (.plain plainC.1 plainC.2 (.plain plainD.1 plainD.2 others))))

theorem readString_body {read text rest : List Char} {value : String}
    (found : readString read text = .ok (value, rest)) :
    ∃ body, StringBody body ∧ text = body ++ '"' :: rest := by
  fun_induction readString read text with
  | case1 => cases found
  | case2 read behind =>
    cases found
    exact ⟨[], .nil, rfl⟩
  | case3 read a b c d e f g h behind high low isLow isHigh paired ih =>
    rcases ih found with ⟨body, isBody, rfl⟩
    exact ⟨_, stringBody_code isHigh (stringBody_code isLow isBody), rfl⟩
  | case4 => cases found
  | case5 read a b c d e f g h behind high low isLow isHigh unpaired single ih =>
    rcases ih found with ⟨body, isBody, split⟩
    rw [split]
    exact ⟨_, stringBody_code isHigh isBody, rfl⟩
  | case6 => cases found
  | case7 => cases found
  | case8 read a b c d behind _ code isCode single ih =>
    rcases ih found with ⟨body, isBody, rfl⟩
    exact ⟨_, stringBody_code isCode isBody, rfl⟩
  | case9 => cases found
  | case10 read c behind _ _ plain isEscape ih =>
    rcases ih found with ⟨body, isBody, rfl⟩
    exact ⟨_, .escape c isBody, rfl⟩
  | case11 => cases found
  | case12 => cases found
  | case13 read c behind notQuote _ _ _ printable ih =>
    rcases ih found with ⟨body, isBody, rfl⟩
    exact ⟨_, .plain notQuote (fun slash => printable (Or.inl slash)) isBody, rfl⟩

/-- What a reader leaves is behind a part without marks. -/
def LeavesAfterPlain (text rest : List Char) : Prop :=
  ∃ part, (∀ c, c ∈ part -> isMark c = false) ∧ text = part ++ rest

theorem leavesAfterPlain_refl (text : List Char) : LeavesAfterPlain text text := by
  refine ⟨[], ?_, rfl⟩
  intro c impossible
  cases impossible

theorem LeavesAfterPlain.trans {first second third : List Char} (left : LeavesAfterPlain first second)
    (right : LeavesAfterPlain second third) : LeavesAfterPlain first third := by
  rcases left with ⟨front, plainFront, rfl⟩
  rcases right with ⟨back, plainBack, rfl⟩
  refine ⟨front ++ back, ?_, (append_assoc _ _ _).symm⟩
  intro c member
  rcases mem_append.mp member with inFront | inBack
  · exact plainFront c inFront
  · exact plainBack c inBack

theorem leavesAfterPlain_drop {part text : List Char} (isPrefix : part <+: text)
    (plain : ∀ c, c ∈ part -> isMark c = false) : LeavesAfterPlain text (text.drop part.length) := by
  rcases isPrefix with ⟨rest, rfl⟩
  rw [drop_left]
  exact ⟨part, plain, rfl⟩

theorem leavesAfterPlain_cons {c : Char} (plain : isMark c = false) (rest : List Char) :
    LeavesAfterPlain (c :: rest) rest := by
  refine ⟨[c], ?_, rfl⟩
  intro other member
  rw [mem_singleton.mp member]
  exact plain

theorem leavesAfterPlain_sign {text : List Char} {signed : Prop} [Decidable signed]
    (sign : signed -> ∃ c, text.head? = some c ∧ isMark c = false) :
    LeavesAfterPlain text (if signed then text.tail else text) := by
  split_ifs with begins
  · rcases sign begins with ⟨c, first, plain⟩
    rcases head?_eq_some_iff.mp first with ⟨rest, rfl⟩
    exact leavesAfterPlain_cons plain rest
  · exact leavesAfterPlain_refl text

theorem plain_digits {text : List Char} {c : Char} (member : c ∈ text.takeWhile isAsciiDigit) :
    isMark c = false :=
  isMark_of_isNumberChar (isNumberChar_of_digit (all_eq_true.mp all_takeWhile c member))

theorem leavesAfterPlain_dropWhile (text : List Char) :
    LeavesAfterPlain text (text.dropWhile isAsciiDigit) :=
  ⟨text.takeWhile isAsciiDigit, fun _ => plain_digits, takeWhile_append_dropWhile.symm⟩

theorem readFraction_leaves (text : List Char) : LeavesAfterPlain text (readFraction text).2 := by
  unfold readFraction
  split
  next rest =>
    dsimp only
    split
    next => exact leavesAfterPlain_refl _
    next => exact (leavesAfterPlain_cons rfl rest).trans (leavesAfterPlain_dropWhile rest)
  next => exact leavesAfterPlain_refl _

theorem readExponent_leaves (text : List Char) : LeavesAfterPlain text (readExponent text).2 := by
  unfold readExponent
  split
  next mark rest =>
    split
    next marks =>
      have plain : isMark mark = false := by
        rcases marks with rfl | rfl
        · rfl
        · rfl
      have unsigned := @leavesAfterPlain_sign rest
        (rest.head? = some '-' ∨ rest.head? = some '+') _ (by
          rintro (minus | plus)
          · exact ⟨'-', minus, rfl⟩
          · exact ⟨'+', plus, rfl⟩)
      simp only
      generalize (if rest.head? = some '-' ∨ rest.head? = some '+' then rest.tail else rest) = digits
        at unsigned ⊢
      split
      next => exact leavesAfterPlain_refl _
      next =>
        exact (leavesAfterPlain_cons plain rest).trans (unsigned.trans (leavesAfterPlain_dropWhile digits))
    next => exact leavesAfterPlain_refl _
  next => exact leavesAfterPlain_refl _

theorem readRest_leaves {negative : Bool} {whole text behind rest : List Char} {value : Value F}
    (found : readRest floats negative whole text behind = .ok (value, rest)) :
    LeavesAfterPlain behind rest := by
  have leaves := (readFraction_leaves behind).trans (readExponent_leaves (readFraction behind).2)
  unfold readRest at found
  dsimp only at found
  split at found
  next =>
    split at found
    next => cases found
    next =>
      cases found
      exact leaves
  next =>
    cases found
    exact leaves

theorem LeavesAfterPlain.length_le {text rest : List Char} (leaves : LeavesAfterPlain text rest) :
    rest.length ≤ text.length := by
  rcases leaves with ⟨part, _, rfl⟩
  rw [length_append]
  exact Nat.le_add_left _ _

theorem readNumber_plain {text rest : List Char} {value : Value F}
    (found : readNumber floats text = .ok (value, rest)) :
    LeavesAfterPlain text rest ∧ rest.length < text.length := by
  have sign := @leavesAfterPlain_sign text (text.head? = some '-') _ (fun minus => ⟨'-', minus, rfl⟩)
  unfold readNumber at found
  dsimp only at found
  generalize (if text.head? = some '-' then text.tail else text) = unsigned at found sign
  have whole : (if (unsigned.takeWhile isAsciiDigit).head? = some '0' then ['0']
        else unsigned.takeWhile isAsciiDigit) <+: unsigned ∧
      ∀ c, c ∈ (if (unsigned.takeWhile isAsciiDigit).head? = some '0' then ['0']
        else unsigned.takeWhile isAsciiDigit) -> isMark c = false := by
    split
    next zero =>
      rcases head?_eq_some_iff.mp zero with ⟨more, digits⟩
      refine ⟨List.IsPrefix.trans ⟨more, digits.symm⟩ (List.takeWhile_prefix _), ?_⟩
      intro c member
      rw [mem_singleton.mp member]
      rfl
    next => exact ⟨List.takeWhile_prefix _, fun _ => plain_digits⟩
  generalize (if (unsigned.takeWhile isAsciiDigit).head? = some '0' then ['0']
    else unsigned.takeWhile isAsciiDigit) = digits at found whole
  split at found
  next => cases found
  next nonempty =>
    have behind := readRest_leaves floats found
    refine ⟨sign.trans ((leavesAfterPlain_drop whole.1 whole.2).trans behind), ?_⟩
    have positive := length_pos_iff.mpr nonempty
    have within := whole.1.length_le
    have le := behind.length_le
    rw [length_drop] at le
    have shorter := sign.length_le
    omega

theorem readWord_plain {text rest : List Char} {value : Value F}
    (found : readWord floats text = .ok (value, rest)) :
    ∃ word, word ≠ [] ∧ (∀ c, c ∈ word -> isMark c = false) ∧ text = word ++ rest := by
  have word : ∀ (letters : List Char), letters.all (fun c => !isMark c) = true -> letters ≠ [] ->
      letters.isPrefixOf text = true -> rest = text.drop letters.length ->
        LeavesAfterPlain text rest ∧ rest.length < text.length := by
    intro letters plain nonempty isPrefix left
    have begins := List.isPrefixOf_iff_prefix.mp isPrefix
    have within := begins.length_le
    have positive := length_pos_iff.mpr nonempty
    rw [left]
    refine ⟨leavesAfterPlain_drop begins ?_, ?_⟩
    · intro c member
      exact (Bool.not_eq_true' _).mp (all_eq_true.mp plain c member)
    · rw [length_drop]
      omega
  have reads : LeavesAfterPlain text rest ∧ rest.length < text.length := by
    unfold readWord at found
    split_ifs at found with null yes no
    · cases found
      exact word _ rfl (cons_ne_nil _ _) null rfl
    · cases found
      exact word _ rfl (cons_ne_nil _ _) yes rfl
    · cases found
      exact word _ rfl (cons_ne_nil _ _) no rfl
    · exact readNumber_plain floats found
  rcases reads with ⟨⟨part, plain, rfl⟩, shorter⟩
  refine ⟨part, ?_, plain, rfl⟩
  rintro rfl
  exact lt_irrefl _ shorter

/-- What the decoder makes of strings, words and containers. -/
def valueScalars : Scalars ReadError String (Value F) where
  readString := readString []
  readWord := readWord floats
  ofString := .str
  ofItems := fun items => .ok (.arr items)
  ofFields := fun fields =>
    if (fields.map Prod.fst).Nodup then .ok (.obj fields) else .error .duplicateField
  malformed := .malformed
  string_body := readString_body
  word_plain := readWord_plain floats

def Part.place : Part F -> Place String (Value F)
  | .value => .value
  | .items read => .items read
  | .fields read => .fields read

def Descent.orMalformed (descent : Descent ReadError (Value F)) : Except ReadError (Value F × List Char) :=
  descent.result.getD (.error .malformed)

theorem orMalformed_andThen (first : Descent ReadError (Value F))
    (next : Value F -> List Char -> Descent ReadError (Value F)) :
    (first.andThen next).orMalformed =
      first.orMalformed >>= fun read => (next read.1 read.2).orMalformed := by
  unfold Descent.orMalformed Descent.andThen
  cases first.result with
  | none => rfl
  | some result =>
    cases result with
    | error error => rfl
    | ok read => rfl

theorem orMalformed_closeFields (opened : Nat) (fields : List (String × Value F)) (rest : List Char) :
    (close opened ((valueScalars floats).ofFields fields.reverse) rest).orMalformed =
      if (fields.map Prod.fst).Nodup then .ok (.obj fields.reverse, rest) else .error .duplicateField := by
  unfold valueScalars close Descent.orMalformed
  simp only [map_reverse, nodup_reverse]
  split_ifs
  · rfl
  · rfl

theorem orMalformed_descend (fuel opened : Nat) (part : Part F) (text : List Char) :
    (descend (valueScalars floats) fuel opened part.place text).orMalformed =
      readPart floats fuel part text := by
  induction fuel generalizing opened part text with
  | zero =>
    unfold descend readPart
    rfl
  | succ fuel ih =>
    cases part with
    | value =>
      change (descend (valueScalars floats) (fuel + 1) opened .value text).orMalformed = _
      unfold descend readPart
      split
      next _ rest => rfl
      next _ rest =>
        change _ = (match skipBlanks rest with
          | '}' :: rest => Except.ok (Value.obj [], rest)
          | rest => readPart floats fuel (.fields []) rest)
        generalize skipBlanks rest = inside
        split
        next => rfl
        next => exact ih (opened + 1) (.fields []) _
      next _ rest =>
        change _ = (match skipBlanks rest with
          | ']' :: rest => Except.ok (Value.arr [], rest)
          | rest => readPart floats fuel (.items []) rest)
        generalize skipBlanks rest = inside
        split
        next => rfl
        next => exact ih (opened + 1) (.items []) _
      next _ notQuote notBrace notBracket =>
        -- the reader is at its last case, too
        change readWord floats text = _
        grind
    | items read =>
      change (descend (valueScalars floats) (fuel + 1) opened (.items read) text).orMalformed = _
      unfold descend readPart
      rw [orMalformed_andThen, ← ih opened .value text]
      apply bind_congr
      intro item
      dsimp only
      generalize skipBlanks item.2 = behind
      split
      next => exact ih opened (.items (item.1 :: read)) _
      next => rfl
      next notComma notClosed =>
        change Except.error ReadError.malformed = _
        grind
    | fields read =>
      change (descend (valueScalars floats) (fuel + 1) opened (.fields read) text).orMalformed = _
      unfold descend readPart
      split
      next _ rest =>
        have strings : (valueScalars floats).readString rest = readString [] rest := rfl
        rw [strings]
        change _ = (readString [] rest >>= _)
        cases readString [] rest with
        | error error => rfl
        | ok key =>
          change Descent.orMalformed (match skipBlanks key.2 with
            | ':' :: rest => _
            | _ => _) = (match skipBlanks key.2 with
            | ':' :: rest => _
            | _ => _)
          generalize skipBlanks key.2 = named
          split
          next _ rest =>
            rw [orMalformed_andThen, ← ih opened .value (skipBlanks rest)]
            apply bind_congr
            intro value
            dsimp only
            generalize skipBlanks value.2 = behind
            split
            next => exact ih opened (.fields ((key.1, value.1) :: read)) _
            next => exact orMalformed_closeFields floats opened _ _
            next notComma notClosed =>
              change Except.error ReadError.malformed = _
              grind
          next => rfl
      next _ notQuote =>
        change Except.error ReadError.malformed = _
        grind

theorem rawDecodeValue_eq (text : List Char) :
    rawDecodeValue floats text =
      (descend (valueScalars floats) (2 * text.length + 2) 0 .value text).orMalformed :=
  (orMalformed_descend floats (2 * text.length + 2) 0 .value text).symm

end Decoder

end Json
end Foundation
end ZepGpu
