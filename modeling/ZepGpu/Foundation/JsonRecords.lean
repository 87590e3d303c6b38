import ZepGpu.Foundation.Json
import ZepGpu.Foundation.Loops
import ZepGpu.Foundation.PosixPath

namespace ZepGpu
namespace Foundation

/-!
# Records read from JSON

A record is read from a JSON object field by field.  A field that is missing
has its default, and a field that the record does not know is refused.

The readers of numbers, truth values and texts are given from outside: a value
of the same JSON type is taken as it is, and which others are taken is left
open.  The readers below are built from them, each with the values that it
reads back as they were written.
-/

inductive ValidationError where
  /-- The declaration of a field does not allow the value. -/
  | refused
  /-- `ValueError`, raised by a validator -/
  | value (message : String)
  deriving DecidableEq, Repr

abbrev FieldReader (α : Type) := Json -> Except ValidationError α

structure Scalars where
  int : FieldReader Int
  float : FieldReader Rat
  bool : FieldReader Bool
  str : FieldReader String
  int_int : ∀ value, int (.int value) = .ok value
  float_float : ∀ value, float (.float value) = .ok value
  bool_bool : ∀ value, bool (.bool value) = .ok value
  str_str : ∀ value, str (.str value) = .ok value

attribute [simp] Scalars.int_int Scalars.float_float Scalars.bool_bool Scalars.str_str

/-- An enumeration whose members are written by their values. -/
class Enumeration (α : Type) where
  members : List α
  value : α -> String
  found : ∀ member, members.find? (fun other => value other = value member) = some member

namespace FieldReader

def nullable {α : Type} (write : α -> Json) (value : Option α) : Json :=
  value.elim .null write

def literal : FieldReader Nat
  | .int value => if 0 ≤ value then .ok value.toNat else .error .refused
  | _ => .error .refused

def path : FieldReader PosixPath
  | .str text => .ok (PosixPath.parse text)
  | _ => .error .refused

def enumeration (α : Type) [Enumeration α] : FieldReader α
  | .str text =>
    match Enumeration.members.find? (fun other : α => Enumeration.value other = text) with
    | some member => .ok member
    | none => .error .refused
  | _ => .error .refused

def optional {α : Type} (read : FieldReader α) : FieldReader (Option α)
  | .null => .ok none
  | json => do .ok (some (<- read json))

def list {α : Type} (read : FieldReader α) : FieldReader (List α)
  | .arr items => items.mapM read
  | _ => .error .refused

@[simp] theorem literal_int (value : Nat) : literal (.int value) = .ok value := by
  rw [literal, if_pos (Int.natCast_nonneg value), Int.toNat_natCast]

@[simp] theorem path_str (value : PosixPath) : path (.str value.str) = .ok value :=
  congrArg Except.ok (PosixPath.parse_str value)

@[simp] theorem enumeration_value {α : Type} [Enumeration α] (member : α) :
    enumeration α (.str (Enumeration.value member)) = .ok member := by
  simp only [enumeration, Enumeration.found]

theorem optional_of_ne_null {α : Type} {read : FieldReader α} {json : Json} (present : json ≠ .null) :
    optional read json = (do .ok (some (<- read json))) := by
  cases json with
  | null => exact absurd rfl present
  | _ => rfl

theorem optional_nullable {α : Type} {read : FieldReader α} {write : α -> Json} {value : Option α}
    (present : ∀ inner, write inner ≠ .null)
    (returns : ∀ inner, value = some inner -> read (write inner) = .ok inner) :
    optional read (nullable write value) = .ok value := by
  cases value with
  | none => rfl
  | some inner =>
    rw [nullable, Option.elim_some, optional_of_ne_null (present inner), returns inner rfl]
    rfl

theorem list_arr {α : Type} {read : FieldReader α} {write : α -> Json} {values : List α}
    (returns : ∀ value, value ∈ values -> read (write value) = .ok value) :
    list read (.arr (values.map write)) = .ok values :=
  mapM_map_eq_ok returns

end FieldReader

namespace Scalars

variable (S : Scalars)

/-- An integer of a field that allows no negative ones. -/
def nat : FieldReader Nat := fun json => do
  let value <- S.int json
  if 0 ≤ value then .ok value.toNat else .error .refused

/-- `dict[str, str]` -/
def strDict : FieldReader (List (String × String))
  | .obj fields => fields.mapM (fun field => do .ok (field.1, <- S.str field.2))
  | _ => .error .refused

@[simp] theorem nat_int (value : Nat) : S.nat (.int value) = .ok value := by
  rw [nat, S.int_int, ok_bind, if_pos (Int.natCast_nonneg value), Int.toNat_natCast]

@[simp] theorem strDict_obj (entries : List (String × String)) :
    S.strDict (.obj (entries.map (fun entry => (entry.1, .str entry.2)))) = .ok entries := by
  apply mapM_map_eq_ok
  intro entry _
  rw [S.str_str]
  rfl

@[simp] theorem optional_str (value : Option String) :
    FieldReader.optional S.str (FieldReader.nullable Json.str value) = .ok value :=
  FieldReader.optional_nullable (fun _ same => Json.noConfusion same) (fun inner _ => S.str_str inner)

@[simp] theorem optional_float (value : Option Rat) :
    FieldReader.optional S.float (FieldReader.nullable Json.float value) = .ok value :=
  FieldReader.optional_nullable (fun _ same => Json.noConfusion same) (fun inner _ => S.float_float inner)

@[simp] theorem optional_texts (value : Option (List String)) :
    FieldReader.optional (FieldReader.list S.str)
      (FieldReader.nullable (fun texts => .arr (texts.map Json.str)) value) = .ok value :=
  FieldReader.optional_nullable (fun _ same => Json.noConfusion same)
    (fun _ _ => FieldReader.list_arr (fun text _ => S.str_str text))

@[simp] theorem list_int (values : List Int) :
    FieldReader.list S.int (.arr (values.map Json.int)) = .ok values :=
  FieldReader.list_arr (fun value _ => S.int_int value)

end Scalars

namespace Json

abbrev Fields := List (String × Json)

def record (names : List String) : FieldReader Fields
  | .obj fields => do
      raiseIf (∃ field ∈ fields, field.1 ∉ names) .refused
      .ok fields
  | _ => .error .refused

/-- The value of a field, or its default. -/
def field {α : Type} (fields : Fields) (read : FieldReader α) (key : String) (default : α) :
    Except ValidationError α :=
  match (Json.obj fields).get? key with
  | some json => read json
  | none => .ok default

/-- `fields[key] = value` -/
def setField (fields : Fields) (key : String) (value : Json) : Fields :=
  if key ∈ fields.map Prod.fst then
    fields.map (fun field => if field.1 = key then (key, value) else field)
  else fields ++ [(key, value)]

theorem get?_cons_self (key : String) (json : Json) (rest : Fields) :
    (Json.obj ((key, json) :: rest)).get? key = some json := by
  rw [get?, List.find?_cons_of_pos (by simp)]
  rfl

theorem get?_cons_ne {key other : String} (different : other ≠ key) (json : Json) (rest : Fields) :
    (Json.obj ((other, json) :: rest)).get? key = (Json.obj rest).get? key := by
  rw [get?, get?, List.find?_cons_of_neg (by simpa using different)]

theorem record_obj {names : List String} {fields : Fields}
    (known : ∀ field, field ∈ fields -> field.1 ∈ names) :
    record names (.obj fields) = .ok fields := by
  have passes : ¬ ∃ field ∈ fields, field.1 ∉ names := by
    rintro ⟨field, member, unknown⟩
    exact unknown (known field member)
  rw [record, raiseIf, if_neg passes]
  rfl

theorem field_cons_self {α : Type} (read : FieldReader α) (key : String) (json : Json) (rest : Fields)
    (default : α) : field ((key, json) :: rest) read key default = read json := by
  rw [field, get?_cons_self]

theorem field_cons_ne {α : Type} {key other : String} (different : other ≠ key) (read : FieldReader α)
    (json : Json) (rest : Fields) (default : α) :
    field ((other, json) :: rest) read key default = field rest read key default := by
  rw [field, field, get?_cons_ne different]

end Json

/-- Whatever is returned satisfies the predicate. -/
def Ensures {ε α : Type} (result : Except ε α) (holds : α -> Prop) : Prop :=
  ∀ value, result = .ok value -> holds value

namespace Ensures

variable {ε α β : Type} {first : Except ε α} {next : α -> Except ε β} {middle : α -> Prop}
  {holds : β -> Prop}

theorem bind (one : Ensures first middle)
    (two : ∀ value, middle value -> Ensures (next value) holds) :
    Ensures (first >>= next) holds := by
  intro value read
  obtain ⟨between, passed, rest⟩ := bind_eq_ok.mp read
  exact two between (one between passed) value rest

theorem skip (two : ∀ value, Ensures (next value) holds) : Ensures (first >>= next) holds :=
  bind (fun _ _ => trivial) (fun value _ => two value)

theorem mono {weaker : α -> Prop} (one : Ensures first middle)
    (weaken : ∀ value, middle value -> weaker value) : Ensures first weaker :=
  fun value read => weaken value (one value read)

theorem field {read : FieldReader α} {fields : Json.Fields} {key : String} {default : α}
    (each : ∀ json, Ensures (read json) middle) (preset : middle default) :
    Ensures (Json.field fields read key default) middle := by
  intro value found
  unfold Json.field at found
  split at found
  · exact each _ value found
  · rw [← Except.ok.inj found]
    exact preset

theorem optional {read : FieldReader α} (each : ∀ json, Ensures (read json) middle) (json : Json) :
    Ensures (FieldReader.optional read json)
      (fun value => ∀ inner, value = some inner -> middle inner) := by
  intro value found inner present
  by_cases missing : json = .null
  · rw [missing] at found
    cases Except.ok.inj found
    cases present
  · rw [FieldReader.optional_of_ne_null missing] at found
    obtain ⟨other, passed, same⟩ := bind_eq_ok.mp found
    cases Except.ok.inj same
    cases present
    exact each json inner passed

end Ensures

end Foundation
end ZepGpu
