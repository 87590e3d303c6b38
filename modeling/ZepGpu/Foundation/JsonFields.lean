import Mathlib.Data.String.Basic
import ZepGpu.Foundation.JsonValues

namespace ZepGpu
namespace Foundation

open List

/-!
# Fields in the order of their keys

Sorting the fields of an object changes their order and nothing else: a key
finds the value it found before, the writer takes the same values, and the
keys stay distinct.  With distinct keys the sorted fields depend only on which
fields there are, so sorting, dropping fields and sorting again is dropping
fields and sorting once.
-/

namespace Json

variable {F : Type} (floats : Floats F)

theorem sortedFields_eq_map (fields : List (String × Value F)) :
    sortedFields fields = fields.map (fun field => (field.1, sorted field.2)) := by
  induction fields with
  | nil => rfl
  | cons field rest ih =>
    rw [map_cons, ← ih]
    rfl

theorem sorted_obj (fields : List (String × Value F)) : sorted (.obj fields) = .obj (sortFields fields) := by
  rw [sorted, sortFields]

theorem perm_sortFields (fields : List (String × Value F)) :
    (sortFields fields).Perm (sortedFields fields) :=
  perm_insertionSort _ _

theorem keys_sortedFields (fields : List (String × Value F)) :
    (sortedFields fields).map Prod.fst = fields.map Prod.fst := by
  rw [sortedFields_eq_map, map_map]
  rfl

theorem perm_keys_sortFields (fields : List (String × Value F)) :
    ((sortFields fields).map Prod.fst).Perm (fields.map Prod.fst) := by
  rw [← keys_sortedFields fields]
  exact (perm_sortFields fields).map _

variable {fields : List (String × Value F)}

theorem nodup_keys_sortFields (nodup : (fields.map Prod.fst).Nodup) :
    ((sortFields fields).map Prod.fst).Nodup :=
  (perm_keys_sortFields fields).nodup_iff.mpr nodup

theorem writableFields_iff :
    writableFields floats fields = true ↔
      ∀ field, field ∈ fields -> writable floats field.2 = true := by
  induction fields with
  | nil => exact ⟨fun _ _ member => (nomatch member), fun _ => rfl⟩
  | cons field rest ih => rw [writableFields, Bool.and_eq_true, ih, forall_mem_cons]

theorem distinctFields_iff :
    distinctFields fields ↔ ∀ field, field ∈ fields -> distinctKeys field.2 := by
  induction fields with
  | nil => exact ⟨fun _ _ member => (nomatch member), fun _ => trivial⟩
  | cons field rest ih => rw [distinctFields, ih, forall_mem_cons]

theorem fieldsDepth_le_iff {bound : Nat} :
    fieldsDepth fields ≤ bound ↔ ∀ field, field ∈ fields -> depth field.2 ≤ bound := by
  induction fields with
  | nil => exact ⟨fun _ _ member => (nomatch member), fun _ => Nat.zero_le _⟩
  | cons field rest ih => rw [fieldsDepth, max_le_iff, ih, forall_mem_cons]

theorem lookup_eq_some_iff (nodup : (fields.map Prod.fst).Nodup) {key : String} {value : Value F} :
    lookup fields key = some value ↔ (key, value) ∈ fields := by
  rw [lookup, Option.map_eq_some_iff]
  constructor
  · rintro ⟨field, found, rfl⟩
    have same : field.1 = key := by simpa using find?_some found
    rw [← same]
    exact mem_of_find?_eq_some found
  · intro member
    cases found : fields.find? (fun field => field.1 = key) with
    | none =>
      have other := find?_eq_none.mp found (key, value) member
      exact absurd (decide_eq_true rfl) other
    | some field =>
      refine ⟨field, rfl, ?_⟩
      have same : field.1 = key := by simpa using find?_some found
      have unique := inj_on_of_nodup_map nodup (mem_of_find?_eq_some found) member same
      rw [unique]

theorem lookup_sortFields (nodup : (fields.map Prod.fst).Nodup) (key : String) :
    lookup (sortFields fields) key = (lookup fields key).map sorted := by
  ext value
  rw [lookup_eq_some_iff (nodup_keys_sortFields nodup), (perm_sortFields fields).mem_iff,
    sortedFields_eq_map, mem_map, Option.map_eq_some_iff]
  constructor
  · rintro ⟨field, member, same⟩
    cases same
    exact ⟨field.2, (lookup_eq_some_iff nodup).mpr member, rfl⟩
  · rintro ⟨plain, found, rfl⟩
    exact ⟨(key, plain), (lookup_eq_some_iff nodup).mp found, rfl⟩

mutual

theorem writable_sorted : ∀ value : Value F, writable floats value = true ->
    writable floats (sorted value) = true
  | .null, ok => ok
  | .bool _, ok => ok
  | .int _, ok => ok
  | .float _, ok => ok
  | .str _, ok => ok
  | .arr items, ok => writable_sortedItems items ok
  | .obj fields, ok => by
      rw [sorted_obj]
      apply (writableFields_iff floats).mpr
      intro field member
      exact (writableFields_iff floats).mp (writable_sortedFields fields ok) field
        ((perm_sortFields fields).mem_iff.mp member)

theorem writable_sortedItems : ∀ items : List (Value F), writableItems floats items = true ->
    writableItems floats (sortedItems items) = true
  | [], _ => rfl
  | item :: rest, ok => by
      obtain ⟨okItem, okRest⟩ := Bool.and_eq_true_iff.mp ok
      exact Bool.and_eq_true_iff.mpr ⟨writable_sorted item okItem, writable_sortedItems rest okRest⟩

theorem writable_sortedFields : ∀ fields : List (String × Value F),
    writableFields floats fields = true -> writableFields floats (sortedFields fields) = true
  | [], _ => rfl
  | (_, value) :: rest, ok => by
      obtain ⟨okValue, okRest⟩ := Bool.and_eq_true_iff.mp ok
      exact Bool.and_eq_true_iff.mpr ⟨writable_sorted value okValue, writable_sortedFields rest okRest⟩

end

mutual

theorem distinctKeys_sorted : ∀ value : Value F, distinctKeys value -> distinctKeys (sorted value)
  | .null, distinct => distinct
  | .bool _, distinct => distinct
  | .int _, distinct => distinct
  | .float _, distinct => distinct
  | .str _, distinct => distinct
  | .arr items, distinct => distinct_sortedItems items distinct
  | .obj fields, distinct => by
      rw [sorted_obj]
      refine ⟨nodup_keys_sortFields distinct.1, distinctFields_iff.mpr ?_⟩
      intro field member
      exact distinctFields_iff.mp (distinct_sortedFields fields distinct.2) field
        ((perm_sortFields fields).mem_iff.mp member)

theorem distinct_sortedItems : ∀ items : List (Value F), distinctItems items ->
    distinctItems (sortedItems items)
  | [], _ => trivial
  | item :: rest, distinct => ⟨distinctKeys_sorted item distinct.1, distinct_sortedItems rest distinct.2⟩

theorem distinct_sortedFields : ∀ fields : List (String × Value F), distinctFields fields ->
    distinctFields (sortedFields fields)
  | [], _ => trivial
  | (_, value) :: rest, distinct =>
    ⟨distinctKeys_sorted value distinct.1, distinct_sortedFields rest distinct.2⟩

end

theorem fieldsDepth_perm {left right : List (String × Value F)} (perm : left.Perm right) :
    fieldsDepth left = fieldsDepth right := by
  apply eq_of_forall_ge_iff
  intro bound
  rw [fieldsDepth_le_iff, fieldsDepth_le_iff]
  exact forall_congr' fun field => imp_congr_left perm.mem_iff

mutual

theorem depth_sorted : ∀ value : Value F, depth (sorted value) = depth value
  | .null => rfl
  | .bool _ => rfl
  | .int _ => rfl
  | .float _ => rfl
  | .str _ => rfl
  | .arr items => congrArg (1 + ·) (itemsDepth_sortedItems items)
  | .obj fields => by
      rw [sorted_obj, depth, depth, fieldsDepth_perm (perm_sortFields fields),
        fieldsDepth_sortedFields fields]

theorem itemsDepth_sortedItems : ∀ items : List (Value F),
    itemsDepth (sortedItems items) = itemsDepth items
  | [] => rfl
  | item :: rest => congrArg₂ max (depth_sorted item) (itemsDepth_sortedItems rest)

theorem fieldsDepth_sortedFields : ∀ fields : List (String × Value F),
    fieldsDepth (sortedFields fields) = fieldsDepth fields
  | [] => rfl
  | (_, value) :: rest => congrArg₂ max (depth_sorted value) (fieldsDepth_sortedFields rest)

end

mutual

/-- Equality of values as dictionaries compare, whatever the order of their
fields. -/
def Equal : Value F -> Value F -> Prop
  | .arr left, .arr right => EqualItems left right
  | .obj left, .obj right => left.length = right.length ∧ EqualFields left right
  | .null, .null => True
  | .bool left, .bool right => left = right
  | .int left, .int right => left = right
  | .float left, .float right => left = right
  | .str left, .str right => left = right
  | _, _ => False

def EqualItems : List (Value F) -> List (Value F) -> Prop
  | [], [] => True
  | left :: lefts, right :: rights => Equal left right ∧ EqualItems lefts rights
  | _, _ => False

def EqualFields : List (String × Value F) -> List (String × Value F) -> Prop
  | [], _ => True
  | (key, left) :: lefts, rights =>
    (match lookup rights key with
      | some right => Equal left right
      | none => False) ∧ EqualFields lefts rights

end

mutual

theorem equal_sorted : ∀ value : Value F, distinctKeys value -> Equal value (sorted value)
  | .null, _ => by rw [sorted, Equal]; trivial
  | .bool _, _ => by rw [sorted, Equal]
  | .int _, _ => by rw [sorted, Equal]
  | .float _, _ => by rw [sorted, Equal]
  | .str _, _ => by rw [sorted, Equal]
  | .arr items, distinct => by
      rw [sorted, Equal]
      exact equal_sortedItems items distinct
  | .obj fields, distinct => by
      rw [sorted_obj, Equal]
      constructor
      · rw [(perm_sortFields fields).length_eq, sortedFields_eq_map, length_map]
      · apply equal_sortedFields fields (sortFields fields) distinct.2
        intro field member
        apply (lookup_eq_some_iff (nodup_keys_sortFields distinct.1)).mpr
        rw [(perm_sortFields fields).mem_iff, sortedFields_eq_map]
        exact mem_map_of_mem (f := fun field => (field.1, sorted field.2)) member

theorem equal_sortedItems : ∀ items : List (Value F), distinctItems items ->
    EqualItems items (sortedItems items)
  | [], _ => by rw [sortedItems, EqualItems]; trivial
  | item :: rest, distinct => by
      rw [sortedItems, EqualItems]
      exact ⟨equal_sorted item distinct.1, equal_sortedItems rest distinct.2⟩

theorem equal_sortedFields : ∀ fields others : List (String × Value F), distinctFields fields ->
    (∀ field, field ∈ fields -> lookup others field.1 = some (sorted field.2)) ->
    EqualFields fields others
  | [], _, _, _ => by rw [EqualFields]; trivial
  | (key, value) :: rest, others, distinct, found => by
      rw [EqualFields, found (key, value) (mem_cons_self ..)]
      exact ⟨equal_sorted value distinct.1, equal_sortedFields rest others distinct.2
        fun field member => found field (mem_cons_of_mem _ member)⟩

end

theorem pairwise_sortFields (fields : List (String × Value F)) :
    (sortFields fields).Pairwise (fun left right => left.1 ≤ right.1) :=
  pairwise_insertionSort _ _

mutual

theorem sorted_sorted : ∀ value : Value F, sorted (sorted value) = sorted value
  | .null => rfl
  | .bool _ => rfl
  | .int _ => rfl
  | .float _ => rfl
  | .str _ => rfl
  | .arr items => by
      simp only [sorted]
      rw [sortedItems_sortedItems items]
  | .obj fields => by
      have values : sortedFields (sortFields fields) = sortFields fields := by
        rw [sortedFields_eq_map, sortFields, map_insertionSort _
          (fun left right : String × Value F => left.1 ≤ right.1) _ _
          (fun _ _ _ _ => Iff.rfl), ← sortedFields_eq_map, sortedFields_sortedFields fields]
      rw [sorted_obj, sorted_obj, sortFields.eq_1 (sortFields fields), values,
        (pairwise_sortFields fields).insertionSort_eq]

theorem sortedItems_sortedItems : ∀ items : List (Value F),
    sortedItems (sortedItems items) = sortedItems items
  | [] => rfl
  | item :: rest => by
      rw [sortedItems, sortedItems, sorted_sorted item, sortedItems_sortedItems rest]

theorem sortedFields_sortedFields : ∀ fields : List (String × Value F),
    sortedFields (sortedFields fields) = sortedFields fields
  | [] => rfl
  | (_, value) :: rest => by
      rw [sortedFields, sortedFields, sorted_sorted value, sortedFields_sortedFields rest]

end

theorem sortFields_eq_of_perm {left right : List (String × Value F)}
    (nodup : (left.map Prod.fst).Nodup) (perm : (sortedFields left).Perm (sortedFields right)) :
    sortFields left = sortFields right := by
  have same : (sortFields left).Perm (sortFields right) :=
    ((perm_sortFields left).trans perm).trans (perm_sortFields right).symm
  apply List.Perm.eq_of_pairwise ?_ (pairwise_sortFields left) (pairwise_sortFields right) same
  intro first second isFirst isSecond below above
  exact inj_on_of_nodup_map (nodup_keys_sortFields nodup) isFirst (same.mem_iff.mpr isSecond)
    (le_antisymm below above)

theorem sortFields_filter_sortFields (nodup : (fields.map Prod.fst).Nodup) (keep : String -> Bool) :
    sortFields ((sortFields fields).filter (fun field => keep field.1)) =
      sortFields (fields.filter (fun field => keep field.1)) := by
  apply sortFields_eq_of_perm
  · exact (nodup_keys_sortFields nodup).sublist (filter_sublist.map _)
  · have kept := ((perm_sortFields fields).filter (fun field => keep field.1)).map
      (fun field : String × Value F => (field.1, sorted field.2))
    have again : ((sortedFields fields).filter (fun field => keep field.1)).map
        (fun field => (field.1, sorted field.2)) =
          sortedFields (fields.filter (fun field => keep field.1)) := by
      rw [sortedFields_eq_map, filter_map, map_map, sortedFields_eq_map]
      refine map_congr_left fun field _ => ?_
      exact congrArg (Prod.mk field.1) (sorted_sorted field.2)
    rw [sortedFields_eq_map ((sortFields fields).filter _), ← again]
    exact kept

end Json

end Foundation
end ZepGpu
