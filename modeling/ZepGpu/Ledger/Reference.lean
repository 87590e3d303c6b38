import ZepGpu.Ledger.Block

namespace ZepGpu
namespace Ledger

open Foundation Json List

/-!
# A reference platform

An executable platform on which the ledger can be run inside Lean.  Its
identifiers and times have their usual texts, so that a stored row reads back
as the service would read it.

Digests and signatures are stand-ins for SHA-256 and Ed25519 with the right
lengths.  The digest of a transaction shows its identifier, the digest of a
header shows its time, and the digest of a pair of nodes combines their
digits, so that the texts of a concrete run are told apart by inspection.  A
signature is accepted exactly when it was made for the key and the message.

The platform also shows that the assumptions collected in `Platform` are
consistent.
-/

namespace Reference

/-- Lower-case hexadecimal digits of a fixed width, most significant first. -/
def hexDigits : Nat -> Nat -> List Char
  | 0, _ => []
  | width + 1, value => hexDigits width (value / 16) ++ [Nat.digitChar (value % 16)]

theorem length_hexDigits (width value : Nat) : (hexDigits width value).length = width := by
  induction width generalizing value with
  | zero => rfl
  | succ width ih => rw [hexDigits, length_append, ih, length_singleton]

theorem mem_hexDigits {width value : Nat} {c : Char} (member : c ∈ hexDigits width value) :
    ∃ digit, digit < 16 ∧ c = Nat.digitChar digit := by
  induction width generalizing value with
  | zero => exact absurd member not_mem_nil
  | succ width ih =>
    rw [hexDigits, mem_append, mem_singleton] at member
    rcases member with front | last
    · exact ih front
    · exact ⟨value % 16, Nat.mod_lt _ (by decide), last⟩

theorem digitChar_mem_hex (digit : Nat) (small : digit < 16) :
    Nat.digitChar digit ∈ "0123456789abcdef".toList := by
  interval_cases digit <;> decide

theorem digitChar_ne_dash (digit : Nat) (small : digit < 16) : Nat.digitChar digit ≠ '-' := by
  interval_cases digit <;> decide

def hexValue? (c : Char) : Option Nat :=
  if 48 ≤ c.toNat ∧ c.toNat ≤ 57 then some (c.toNat - 48)
  else if 97 ≤ c.toNat ∧ c.toNat ≤ 102 then some (c.toNat - 87)
  else if 65 ≤ c.toNat ∧ c.toNat ≤ 70 then some (c.toNat - 55)
  else none

theorem hexValue?_digitChar (digit : Nat) (small : digit < 16) :
    hexValue? (Nat.digitChar digit) = some digit := by
  interval_cases digit <;> decide

def readHex : Nat -> List Char -> Option Nat
  | value, [] => some value
  | value, c :: rest =>
    match hexValue? c with
    | some digit => readHex (value * 16 + digit) rest
    | none => none

theorem readHex_hexDigits (width value read : Nat) (rest : List Char) :
    readHex read (hexDigits width value ++ rest) =
      readHex (read * 16 ^ width + value % 16 ^ width) rest := by
  induction width generalizing value rest with
  | zero => simp [hexDigits, Nat.mod_one]
  | succ width ih =>
    rw [hexDigits, append_assoc, ih, singleton_append, readHex,
      hexValue?_digitChar _ (Nat.mod_lt _ (by decide))]
    refine congrArg (fun value => readHex value rest) ?_
    rw [Nat.pow_succ, Nat.mul_comm (16 ^ width) 16, Nat.mod_mul]
    ring

def fingerprint (text : String) : Nat :=
  text.toList.foldl (fun sum c => sum * 1114112 + c.toNat + 1) 0

def hexText (width : Nat) (text : String) : String :=
  String.ofList (hexDigits width (fingerprint text))

theorem length_hexText (width : Nat) (text : String) : (hexText width text).length = width := by
  rw [hexText, String.length_ofList, length_hexDigits]

theorem hexText_ne {width : Nat} {left right : String}
    (different : fingerprint left % 16 ^ width ≠ fingerprint right % 16 ^ width) :
    hexText width left ≠ hexText width right := by
  intro same
  have lists := congrArg String.toList same
  rw [hexText, hexText, String.toList_ofList, String.toList_ofList] at lists
  have values := congrArg (readHex 0) lists
  rw [← append_nil (hexDigits width (fingerprint left)),
    ← append_nil (hexDigits width (fingerprint right)), readHex_hexDigits, readHex_hexDigits,
    readHex, readHex, Nat.zero_mul, Nat.zero_add, Nat.zero_add] at values
  exact different (Option.some.inj values)

def mark (key message : String) : String :=
  hexText 88 (key ++ message)

/-- Whole amounts have the text of a float; other amounts are written as
fractions. -/
def reprFloat (value : Rat) : String :=
  if value.den = 1 then toString value.num ++ ".0"
  else toString value.num ++ "/" ++ toString value.den

theorem reprFloat_no_comma (value : Rat) : ',' ∉ (reprFloat value).toList := by
  have numerator := comma_not_mem_int value.num
  have denominator : ',' ∉ (toString value.den).toList := comma_not_mem_int value.den
  rw [reprFloat]
  split_ifs
  · simp only [String.toList_append, mem_append, not_or]
    exact ⟨numerator, by decide⟩
  · simp only [String.toList_append, mem_append, not_or]
    exact ⟨⟨numerator, by decide⟩, denominator⟩

def strOfJson : Json -> String
  | .null => "None"
  | .bool value => if value then "True" else "False"
  | .int value => toString value
  | .float value => reprFloat value
  | .str value => value
  | value => String.ofList (value.encode reprFloat)

def dashed (digits : List Char) : List Char :=
  digits.take 8 ++ '-' :: ((digits.drop 8).take 4 ++ '-' :: ((digits.drop 12).take 4 ++
    '-' :: ((digits.drop 16).take 4 ++ '-' :: digits.drop 20)))

def strOfUuid (id : Uuid) : String :=
  String.ofList (dashed (hexDigits 32 id.toNat))

def uuidOfString (text : String) : Option Uuid :=
  let digits := text.toList.filter (fun c => c ≠ '-')
  if digits.length = 32 then (readHex 0 digits).map (BitVec.ofNat 128) else none

theorem filter_dashed (digits : List Char) (plain : ∀ c, c ∈ digits -> c ≠ '-') :
    (dashed digits).filter (fun c => decide (c ≠ '-')) = digits := by
  have kept : ∀ part : List Char, part ⊆ digits ->
      part.filter (fun c => decide (c ≠ '-')) = part := by
    intro part inside
    rw [filter_eq_self]
    intro c member
    exact decide_eq_true (plain c (inside member))
  have piece : ∀ start size, (digits.drop start).take size ⊆ digits :=
    fun start size c member => mem_of_mem_drop (mem_of_mem_take member)
  simp only [dashed, filter_append, filter_cons, ne_eq, not_true_eq_false,
    decide_false, Bool.false_eq_true, if_false]
  rw [kept _ (take_subset _ _), kept _ (piece _ _), kept _ (piece _ _), kept _ (piece _ _),
    kept _ (drop_subset _ _)]
  have join : ∀ start size, (digits.drop start).take size ++ digits.drop (start + size) =
      digits.drop start := by
    intro start size
    rw [← drop_drop, take_append_drop]
  rw [join 16 4, join 12 4, join 8 4, take_append_drop]

theorem uuidOfString_strOfUuid (id : Uuid) : uuidOfString (strOfUuid id) = some id := by
  have plain : ∀ c, c ∈ hexDigits 32 id.toNat -> c ≠ '-' := by
    intro c member
    obtain ⟨digit, small, rfl⟩ := mem_hexDigits member
    exact digitChar_ne_dash digit small
  have read := readHex_hexDigits 32 id.toNat 0 []
  have bound : id.toNat < 16 ^ 32 := id.isLt
  rw [append_nil, readHex, Nat.zero_mul, Nat.zero_add, Nat.mod_eq_of_lt bound] at read
  simp only [uuidOfString, strOfUuid, String.toList_ofList, filter_dashed _ plain,
    length_hexDigits, if_true, read, Option.map_some, BitVec.ofNat_toNat, BitVec.setWidth_eq]

theorem length_strOfUuid (id : Uuid) : (strOfUuid id).length = 36 := by
  rw [strOfUuid, String.length_ofList, dashed]
  simp only [length_append, length_cons, length_take, length_drop, length_hexDigits]
  rfl

def daysBeforeYear (year : Nat) : Nat :=
  (year - 1) * 365 + (year - 1) / 4 - (year - 1) / 100 + (year - 1) / 400

def isLeap (year : Nat) : Bool :=
  year % 4 = 0 && (year % 100 ≠ 0 || year % 400 = 0)

def daysBeforeMonth (year month : Nat) : Nat :=
  ([0, 0, 31, 59, 90, 120, 151, 181, 212, 243, 273, 304, 334].getD month 0) +
    (if 2 < month ∧ isLeap year then 1 else 0)

/-- The latest of some candidates that is not too late, `1` when all are. -/
def latest (start : Nat -> Nat) (day : Nat) : List Nat -> Nat
  | [] => 1
  | candidate :: rest => if start candidate ≤ day then candidate else latest start day rest

theorem latest_le {start : Nat -> Nat} {day : Nat} (first : start 1 = 0) (candidates : List Nat) :
    start (latest start day candidates) ≤ day := by
  induction candidates with
  | nil => rw [latest, first]; exact Nat.zero_le _
  | cons candidate rest ih =>
    rw [latest]
    by_cases early : start candidate ≤ day
    · rw [if_pos early]
      exact early
    · rw [if_neg early]
      exact ih

def yearOf (day : Nat) : Nat :=
  let guess := day * 400 / 146097
  latest daysBeforeYear day [guess + 2, guess + 1, guess]

def monthOf (year day : Nat) : Nat :=
  latest (daysBeforeMonth year) day [12, 11, 10, 9, 8, 7, 6, 5, 4, 3, 2]

def padded (width value : Nat) : List Char :=
  let digits := Nat.toDigits 10 value
  List.replicate (width - digits.length) '0' ++ digits

def readField (separator : Char) (text : List Char) : Option (Nat × List Char) :=
  match text.dropWhile Char.isDigit with
  | c :: rest =>
    if c = separator then some (Nat.ofDigitChars 10 (text.takeWhile Char.isDigit) 0, rest)
    else none
  | [] => none

theorem padded_digits (width value : Nat) : ∀ c, c ∈ padded width value -> c.isDigit = true := by
  intro c member
  rw [padded, mem_append] at member
  rcases member with zero | digit
  · rw [eq_of_mem_replicate zero]
    decide
  · exact Nat.isDigit_of_mem_toDigits (by decide) (by decide) digit

theorem value_padded (width value : Nat) : Nat.ofDigitChars 10 (padded width value) 0 = value := by
  rw [padded, Nat.ofDigitChars_append, Nat.ofDigitChars_replicate_zero, Nat.mul_zero,
    Nat.ofDigitChars_ten_toDigits]

theorem readField_padded (separator : Char) (notDigit : separator.isDigit = false)
    (width value : Nat) (rest : List Char) :
    readField separator (padded width value ++ separator :: rest) = some (value, rest) := by
  rw [readField, dropWhile_append_of_pos (padded_digits width value),
    takeWhile_append_of_pos (padded_digits width value),
    dropWhile_cons_of_neg (by rw [notDigit]; decide),
    takeWhile_cons_of_neg (by rw [notDigit]; decide), append_nil, value_padded]
  exact if_pos rfl

/-- Microseconds of one day. -/
def dayLength : Nat := 86400000000

/-- The ISO text of a UTC datetime.  Microseconds are written when there are
any. -/
def isoChars (time : Nat) : List Char :=
  let day := time / dayLength
  let year := yearOf day
  let inYear := day - daysBeforeYear year
  let month := monthOf year inYear
  let second := time % dayLength / 1000000
  let micro := time % 1000000
  padded 4 year ++ '-' :: (padded 2 month ++ '-' ::
    (padded 2 (inYear - daysBeforeMonth year month + 1) ++ 'T' ::
    (padded 2 (second / 3600) ++ ':' :: (padded 2 (second / 60 % 60) ++ ':' ::
    (padded 2 (second % 60) ++
      (if micro = 0 then "+00:00".toList else '.' :: (padded 6 micro ++ "+00:00".toList)))))))

def isoformat (time : Instant) : String :=
  String.ofList (isoChars time.val)

/-- The seconds and microseconds at the end of a time, up to the offset. -/
def readSeconds (text : List Char) : Option (Nat × Nat) :=
  match readField '+' text with
  | some (second, rest) => if rest = "00:00".toList then some (second, 0) else none
  | none =>
    match readField '.' text with
    | some (second, rest) =>
      match readField '+' rest with
      | some (micro, rest) => if rest = "00:00".toList then some (second, micro) else none
      | none => none
    | none => none

def readIso (text : List Char) : Option Nat := do
  let (year, text) ← readField '-' text
  let (month, text) ← readField '-' text
  let (day, text) ← readField 'T' text
  let (hour, text) ← readField ':' text
  let (minute, text) ← readField ':' text
  let (second, micro) ← readSeconds text
  some ((daysBeforeYear year + daysBeforeMonth year month + (day - 1)) * dayLength +
    (hour * 3600 + minute * 60 + second) * 1000000 + micro)

def fromisoformat (text : String) : Option Instant :=
  match readIso text.toList with
  | some time => if bound : time < 315537897600000000 then some ⟨time, bound⟩ else none
  | none => none

theorem readField_other (separator other : Char) (notDigit : other.isDigit = false)
    (different : other ≠ separator) (width value : Nat) (rest : List Char) :
    readField separator (padded width value ++ other :: rest) = none := by
  rw [readField, dropWhile_append_of_pos (padded_digits width value),
    dropWhile_cons_of_neg (by rw [notDigit]; decide)]
  exact if_neg different

theorem readSeconds_padded (second micro : Nat) :
    readSeconds (padded 2 second ++
      (if micro = 0 then "+00:00".toList else '.' :: (padded 6 micro ++ "+00:00".toList))) =
      some (second, micro) := by
  have offset : "+00:00".toList = '+' :: "00:00".toList := by decide
  by_cases whole : micro = 0
  · rw [if_pos whole, offset, readSeconds, readField_padded '+' (by decide)]
    exact (if_pos rfl).trans (by rw [whole])
  · rw [if_neg whole, offset, readSeconds, readField_other '+' '.' (by decide) (by decide),
      readField_padded '.' (by decide)]
    dsimp only
    rw [readField_padded '+' (by decide)]
    exact if_pos rfl

theorem readIso_isoChars (time : Nat) : readIso (isoChars time) = some time := by
  have yearStart : daysBeforeYear (yearOf (time / dayLength)) ≤ time / dayLength :=
    latest_le (by decide) _
  have monthStart : daysBeforeMonth (yearOf (time / dayLength)) (monthOf (yearOf (time / dayLength))
      (time / dayLength - daysBeforeYear (yearOf (time / dayLength)))) ≤
      time / dayLength - daysBeforeYear (yearOf (time / dayLength)) :=
    latest_le (by simp [daysBeforeMonth]) _
  simp only [readIso, isoChars, readField_padded '-' (by decide), readField_padded 'T' (by decide),
    readField_padded ':' (by decide), readSeconds_padded, Option.bind_eq_bind, Option.bind_some]
  generalize yearOf (time / dayLength) = year at *
  generalize monthOf year (time / dayLength - daysBeforeYear year) = month at *
  generalize daysBeforeYear year = before at *
  generalize daysBeforeMonth year month = beforeMonth at *
  simp only [dayLength] at *
  refine congrArg some ?_
  omega

theorem fromisoformat_isoformat (time : Instant) : fromisoformat (isoformat time) = some time := by
  rw [fromisoformat, isoformat, String.toList_ofList, readIso_isoChars]
  simp only [time.isLt, dite_true]

theorem isoformat_no_zulu (time : Instant) : 'Z' ∉ (isoformat time).toList := by
  have digits : ∀ width value, 'Z' ∉ padded width value := by
    intro width value member
    exact absurd (padded_digits width value 'Z' member) (by decide)
  rw [isoformat, String.toList_ofList, isoChars]
  simp only [mem_append, mem_cons, digits, false_or, not_or]
  refine ⟨by decide, by decide, by decide, by decide, by decide, ?_⟩
  split_ifs
  · decide
  · simp only [mem_append, mem_cons, digits, false_or, not_or]
    exact ⟨by decide, by decide⟩

/-- The hexadecimal value of a text, zero when it has none. -/
def hexValue (text : List Char) : Nat :=
  (readHex 0 text).getD 0

/-- The time in the text of a header: the fields before it have fixed widths,
except the height, which ends at the first comma. -/
def headerTime (text : List Char) : Nat :=
  let time := ((text.dropWhile (fun c => c ≠ ',')).drop 177).takeWhile (fun c => c ≠ '"')
  (fromisoformat (String.ofList time)).elim 0 Fin.val

def digestChars (text : List Char) : List Char :=
  if "\x7b\"id\":\"".toList.isPrefixOf text then
    'a' :: hexDigits 63
      ((uuidOfString (String.ofList ((text.drop 7).take 36))).elim 0 BitVec.toNat)
  else if "\x7b\"height\":".toList.isPrefixOf text then 'b' :: hexDigits 63 (headerTime text)
  else 'c' :: hexDigits 63
    (hexValue ((text.drop 1).take 63) + 2 * hexValue ((text.drop 65).take 63))

def sha256Hex (text : String) : String :=
  String.ofList (digestChars text.toList)

theorem sha256Hex_isHex (text : String) : IsHexDigest (sha256Hex text) := by
  have tagged : ∀ tag : Char, tag ∈ "0123456789abcdef".toList -> ∀ value,
      (tag :: hexDigits 63 value).length = 64 ∧
        ∀ c, c ∈ tag :: hexDigits 63 value -> c ∈ "0123456789abcdef".toList := by
    intro tag tagMember value
    refine ⟨by rw [length_cons, length_hexDigits], fun c member => ?_⟩
    rcases mem_cons.mp member with here | digit
    · exact here ▸ tagMember
    · obtain ⟨value, small, rfl⟩ := mem_hexDigits digit
      exact digitChar_mem_hex value small
  rw [IsHexDigest, sha256Hex, String.length_ofList, String.toList_ofList, digestChars]
  split_ifs
  · exact tagged 'a' (by decide) _
  · exact tagged 'b' (by decide) _
  · exact tagged 'c' (by decide) _

section Platforms

variable {F : Type} [Arithmetic F]

/-- Identifiers and times as in Python, with stand-ins for the cryptography.  A
text of digits names a whole amount. -/
def platformOf (reprAmount : F -> String)
    (plain : ∀ value, ',' ∉ (reprAmount value).toList) : Platform F where
  sha256Hex := sha256Hex
  publicKeyFromPrivate := hexText 44
  deriveKeypairFromSeed := fun seed => (seed, hexText 44 seed)
  signMessage := fun key message => mark (hexText 44 key) message
  verifySignature := fun key message signature => decide (signature = mark key message)
  reprFloat := reprAmount
  floatOfString := fun text => text.toInt?.map (fun value => Arithmetic.ofRat value)
  intOfString := String.toInt?
  strOfJson := strOfJson
  uuidOfString := uuidOfString
  strOfUuid := strOfUuid
  fromisoformat := fromisoformat
  isoformat := isoformat
  sha256Hex_isHex := sha256Hex_isHex
  derived_public := fun _ => rfl
  verify_sign := fun _ _ => decide_eq_true rfl
  publicKey_length := length_hexText 44
  signature_length := fun _ _ => length_hexText 88 _
  reprFloat_no_comma := plain
  strOfUuid_length := length_strOfUuid
  uuidOfString_strOfUuid := uuidOfString_strOfUuid
  fromisoformat_isoformat := fromisoformat_isoformat
  isoformat_no_zulu := isoformat_no_zulu

end Platforms

/-- The text of a double, with the names that `repr` gives to the three values
that are not finite. -/
def reprDouble (value : Float) : String :=
  match Double.toRat? value with
  | some finite => reprFloat finite
  | none => if 0 < value then "inf" else if value < 0 then "-inf" else "nan"

theorem reprDouble_no_comma (value : Float) : ',' ∉ (reprDouble value).toList := by
  rw [reprDouble]
  split
  · exact reprFloat_no_comma _
  · split_ifs <;> decide

/-- The platform of the service: amounts are doubles. -/
def platform : Platform Float :=
  platformOf reprDouble reprDouble_no_comma

/-- The same functions over exact amounts. -/
def exactPlatform : Platform Rat :=
  platformOf reprFloat reprFloat_no_comma

def digest (tag : Char) (value : Nat) : String :=
  String.ofList (tag :: hexDigits 63 value)

/-- Characters that stand for themselves in a string literal. -/
def Plain (c : Char) : Prop :=
  c ≠ '"' ∧ c ≠ '\\' ∧ 32 ≤ c.toNat ∧ c.toNat ≤ 126

instance : DecidablePred Plain := fun c =>
  inferInstanceAs (Decidable (c ≠ '"' ∧ c ≠ '\\' ∧ 32 ≤ c.toNat ∧ c.toNat ≤ 126))

theorem escape_plain {text : List Char} (plain : ∀ c, c ∈ text -> Plain c) :
    Json.escape text = text := by
  induction text with
  | nil => rfl
  | cons c rest ih =>
    obtain ⟨noQuote, noSlash, low, high⟩ := plain c mem_cons_self
    have self : Json.escapeChar c = [c] := by
      have control : ∀ d : Char, d.toNat < 32 -> c ≠ d := by
        rintro d small rfl
        omega
      rw [Json.escapeChar, if_neg noQuote, if_neg noSlash, if_neg (control _ (by decide)),
        if_neg (control _ (by decide)), if_neg (control _ (by decide)), if_neg (by omega),
        if_neg (by omega), if_pos ⟨low, high⟩]
    rw [Json.escape, flatMap_cons, self]
    exact congrArg (fun tail => c :: tail) (ih (fun d member => plain d (mem_cons_of_mem _ member)))

theorem plain_of_isHex {text : String} (hex : IsHexDigest text) :
    ∀ c, c ∈ text.toList -> Plain c := by
  have each : ∀ d, d ∈ "0123456789abcdef".toList -> Plain d := forall_of_all (by decide)
  exact fun c member => each c (hex.2 c member)

theorem plain_digitChar (digit : Nat) (small : digit < 16) : Plain (Nat.digitChar digit) := by
  interval_cases digit <;> decide

theorem mem_strOfUuid {id : Uuid} {c : Char} (member : c ∈ (strOfUuid id).toList) :
    c = '-' ∨ ∃ digit, digit < 16 ∧ c = Nat.digitChar digit := by
  have digits : c ∈ hexDigits 32 id.toNat -> c = '-' ∨ ∃ digit, digit < 16 ∧
      c = Nat.digitChar digit := fun inside => Or.inr (mem_hexDigits inside)
  rw [strOfUuid, String.toList_ofList, dashed] at member
  simp only [mem_append, mem_cons] at member
  rcases member with h | dash | h | dash | h | dash | h | dash | h
  · exact digits (mem_of_mem_take h)
  · exact Or.inl dash
  · exact digits (mem_of_mem_drop (mem_of_mem_take h))
  · exact Or.inl dash
  · exact digits (mem_of_mem_drop (mem_of_mem_take h))
  · exact Or.inl dash
  · exact digits (mem_of_mem_drop (mem_of_mem_take h))
  · exact Or.inl dash
  · exact digits (mem_of_mem_drop h)

theorem plain_strOfUuid (id : Uuid) : ∀ c, c ∈ (strOfUuid id).toList -> Plain c := by
  intro c member
  rcases mem_strOfUuid member with rfl | ⟨digit, small, rfl⟩
  · decide
  · exact plain_digitChar digit small

theorem sha256Hex_signingText (tx : ComputeTransaction) (id : Uuid)
    (idText : tx.id = platform.strOfUuid id) :
    platform.sha256Hex (tx.signingText platform) = digest 'a' id.toNat := by
  change tx.id = strOfUuid id at idText
  obtain ⟨rest, shape⟩ := signingText_front platform tx
  have sized : (strOfUuid id).toList.length = 36 := by
    rw [String.length_toList, length_strOfUuid]
  rw [idText, Json.quoted, escape_plain (plain_strOfUuid id)] at shape
  have front : (tx.signingText platform).toList =
      "\x7b\"id\":\"".toList ++ ((strOfUuid id).toList ++ '"' :: rest) := by
    rw [shape]
    simp
  have taken : ((tx.signingText platform).toList.drop 7).take 36 = (strOfUuid id).toList := by
    rw [front, drop_left' (by decide), take_left' sized]
  have isId : "\x7b\"id\":\"".toList.isPrefixOf (tx.signingText platform).toList = true := by
    rw [List.isPrefixOf_iff_prefix, front]
    exact prefix_append _ _
  change String.ofList (digestChars (tx.signingText platform).toList) = digest 'a' id.toNat
  rw [digestChars, if_pos isId, taken, String.ofList_toList, uuidOfString_strOfUuid]
  rfl

theorem plain_isoformat (time : Instant) : ∀ c, c ∈ (isoformat time).toList -> Plain c := by
  have digits : ∀ width value c, c ∈ padded width value -> Plain c := by
    intro width value c member
    have digit := padded_digits width value c member
    simp only [Char.isDigit, ge_iff_le, Bool.and_eq_true, decide_eq_true_eq, UInt32.le_iff_toNat_le]
      at digit
    have low : 48 ≤ c.toNat := digit.1
    have high : c.toNat ≤ 57 := digit.2
    refine ⟨?_, ?_, by omega, by omega⟩
    · rintro rfl
      exact absurd low (by decide)
    · rintro rfl
      exact absurd high (by decide)
  have marks : ∀ c, c ∈ "-T:.".toList -> Plain c := forall_of_all (by decide)
  have offset : ∀ c, c ∈ "+00:00".toList -> Plain c := forall_of_all (by decide)
  intro c member
  rw [isoformat, String.toList_ofList, isoChars] at member
  simp only [mem_append, mem_cons] at member
  rcases member with h | rfl | h | rfl | h | rfl | h | rfl | h | rfl | h | h
  · exact digits _ _ c h
  · exact marks _ (by decide)
  · exact digits _ _ c h
  · exact marks _ (by decide)
  · exact digits _ _ c h
  · exact marks _ (by decide)
  · exact digits _ _ c h
  · exact marks _ (by decide)
  · exact digits _ _ c h
  · exact marks _ (by decide)
  · exact digits _ _ c h
  · split_ifs at h
    · exact offset c h
    · rcases mem_cons.mp h with rfl | h
      · exact marks _ (by decide)
      · rcases mem_append.mp h with h | h
        · exact digits _ _ c h
        · exact offset c h

theorem sha256Hex_headerText (block : ComputeBlock) (time : Instant)
    (previousHex : IsHexDigest block.previousHash) (stateHex : IsHexDigest block.stateRoot)
    (timeText : block.timestamp = platform.isoformat time) :
    platform.sha256Hex (block.headerText platform) = digest 'b' time.val := by
  change block.timestamp = isoformat time at timeText
  have shape : ∃ rest, (block.headerText platform).toList =
      ("\x7b\"height\":".toList ++ (toString block.height).toList) ++
        ((",\"previous_hash\":\"".toList ++ (block.previousHash.toList ++
          ("\",\"state_root\":\"".toList ++ (block.stateRoot.toList ++
            "\",\"timestamp\":\"".toList)))) ++ ((isoformat time).toList ++ '"' :: rest)) := by
    rw [ComputeBlock.headerText, Platform.canonicalJson, String.toList_ofList, headerText_eq]
    simp only [Json.encode, Json.quoted, escape_plain (plain_of_isHex previousHex),
      escape_plain (plain_of_isHex stateHex), timeText, escape_plain (plain_isoformat time)]
    exact ⟨_, by simp; rfl⟩
  obtain ⟨rest, shape⟩ := shape
  have isHeader : "\x7b\"height\":".toList <+: (block.headerText platform).toList := by
    rw [shape, append_assoc]
    exact prefix_append _ _
  have noId : ¬ "\x7b\"id\":\"".toList <+: (block.headerText platform).toList := by
    intro isId
    exact absurd (prefix_of_prefix_length_le isId isHeader (by decide)) (by decide)
  have skipped : ((block.headerText platform).toList.dropWhile (fun c => decide (c ≠ ','))).drop 177 =
      (isoformat time).toList ++ '"' :: rest := by
    have noComma : ∀ c, c ∈ "\x7b\"height\":".toList ++ (toString block.height).toList ->
        decide (c ≠ ',') = true := by
      intro c member
      rw [decide_eq_true_eq]
      rintro rfl
      rcases mem_append.mp member with front | digits
      · exact absurd front (by decide)
      · exact comma_not_mem_int block.height digits
    rw [shape, dropWhile_append_of_pos noComma,
      show ",\"previous_hash\":\"".toList = ',' :: "\"previous_hash\":\"".toList by decide,
      cons_append, cons_append, dropWhile_cons_of_neg (by decide), ← cons_append,
      drop_left']
    simp only [length_cons, length_append, String.length_toList, previousHex.1, stateHex.1]
    decide
  have timeOnly : ((isoformat time).toList ++ '"' :: rest).takeWhile (fun c => decide (c ≠ '"')) =
      (isoformat time).toList := by
    rw [takeWhile_append_of_pos (fun c member => decide_eq_true (plain_isoformat time c member).1),
      takeWhile_cons_of_neg (by decide), append_nil]
  change String.ofList (digestChars (block.headerText platform).toList) = digest 'b' time.val
  rw [digestChars, if_neg (by rw [List.isPrefixOf_iff_prefix]; exact noId),
    if_pos (by rw [List.isPrefixOf_iff_prefix]; exact isHeader), headerTime]
  simp only [skipped, timeOnly, String.ofList_toList, fromisoformat_isoformat]
  rfl

theorem digest_inj {leftTag rightTag : Char} {left right : Nat} (leftSmall : left < 16 ^ 63)
    (rightSmall : right < 16 ^ 63) (same : digest leftTag left = digest rightTag right) :
    leftTag = rightTag ∧ left = right := by
  have lists := congrArg String.toList same
  rw [digest, digest, String.toList_ofList, String.toList_ofList, List.cons.injEq] at lists
  refine ⟨lists.1, ?_⟩
  have values := congrArg (readHex 0) lists.2
  rw [← append_nil (hexDigits 63 left), ← append_nil (hexDigits 63 right),
    readHex_hexDigits, readHex_hexDigits, readHex, readHex, Nat.zero_mul, Nat.zero_add, Nat.zero_add,
    Nat.mod_eq_of_lt leftSmall, Nat.mod_eq_of_lt rightSmall] at values
  exact Option.some.inj values

theorem hexValue_hexDigits (value : Nat) (small : value < 16 ^ 63) :
    hexValue (hexDigits 63 value) = value := by
  rw [hexValue, ← append_nil (hexDigits 63 value), readHex_hexDigits, readHex, Nat.zero_mul,
    Nat.zero_add, Nat.mod_eq_of_lt small, Option.getD_some]

theorem sha256Hex_pair {leftTag rightTag : Char} {left right : Nat} (leftSmall : left < 16 ^ 63)
    (rightSmall : right < 16 ^ 63) (noBrace : leftTag ≠ '{') :
    platform.sha256Hex (digest leftTag left ++ digest rightTag right) =
      digest 'c' (left + 2 * right) := by
  have text : (digest leftTag left ++ digest rightTag right).toList =
      leftTag :: (hexDigits 63 left ++ rightTag :: hexDigits 63 right) := by
    rw [String.toList_append, digest, digest, String.toList_ofList, String.toList_ofList]
    rfl
  have notPrefix : ∀ rest, ('{' :: rest).isPrefixOf
      (leftTag :: (hexDigits 63 left ++ rightTag :: hexDigits 63 right)) = false := by
    intro rest
    rw [isPrefixOf_cons_cons, beq_eq_false_iff_ne.mpr (Ne.symm noBrace), Bool.false_and]
  have size := length_hexDigits 63 left
  change String.ofList (digestChars (digest leftTag left ++ digest rightTag right).toList) = _
  rw [text, digestChars,
    show "\x7b\"id\":\"".toList = '{' :: "\"id\":\"".toList by decide,
    show "\x7b\"height\":".toList = '{' :: "\"height\":".toList by decide,
    if_neg (by rw [notPrefix]; decide), if_neg (by rw [notPrefix]; decide)]
  rw [drop_succ_cons, drop_zero, take_left' size,
    show leftTag :: (hexDigits 63 left ++ rightTag :: hexDigits 63 right) =
      (leftTag :: (hexDigits 63 left ++ [rightTag])) ++ hexDigits 63 right by simp,
    drop_left' (by rw [length_cons, length_append, size]; rfl),
    take_of_length_le (Nat.le_of_eq (length_hexDigits 63 right)),
    hexValue_hexDigits left leftSmall, hexValue_hexDigits right rightSmall]
  rfl

end Reference

end Ledger
end ZepGpu
