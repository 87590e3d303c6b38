import Mathlib.Data.List.Forall2
import ZepGpu.Foundation.Requests

namespace ZepGpu
namespace Foundation

/-!
# Loops that may fail

A loop that computes a result for each value ends with all results, or with the
first error.
-/

section Loops

variable {ε α β : Type} {f : α -> Except ε β}

theorem ok_bind (value : α) (next : α -> Except ε β) :
    ((Except.ok value : Except ε α) >>= next) = next value :=
  rfl

theorem map_eq_ok_iff {result : Except ε α} {g : α -> β} {value : β} :
    result.map g = .ok value ↔ ∃ original, result = .ok original ∧ g original = value := by
  cases result with
  | error error =>
    constructor
    · exact fun impossible => nomatch impossible
    · rintro ⟨_, impossible, _⟩
      cases impossible
  | ok original =>
    constructor
    · intro same
      exact ⟨original, rfl, Except.ok.inj same⟩
    · rintro ⟨_, ⟨⟩, rfl⟩
      rfl

theorem mapM_eq_ok_iff {values : List α} {results : List β} :
    values.mapM f = .ok results ↔
      List.Forall₂ (fun value result => f value = .ok result) values results := by
  induction values generalizing results with
  | nil =>
    rw [List.mapM_nil]
    constructor
    · intro same
      cases Except.ok.inj same
      exact List.Forall₂.nil
    · intro same
      cases same
      rfl
  | cons value rest ih =>
    rw [List.mapM_cons]
    constructor
    · intro same
      obtain ⟨result, here, same⟩ := bind_eq_ok.mp same
      obtain ⟨others, later, same⟩ := bind_eq_ok.mp same
      cases Except.ok.inj same
      exact List.Forall₂.cons here (ih.mp later)
    · intro same
      cases same with
      | cons here later =>
        rw [here, ok_bind, ih.mpr later]
        rfl

theorem mapM_map_eq_ok {write : β -> α} {values : List β}
    (returns : ∀ value, value ∈ values -> f (write value) = .ok value) :
    (values.map write).mapM f = .ok values := by
  apply mapM_eq_ok_iff.mpr
  induction values with
  | nil => exact List.Forall₂.nil
  | cons value rest ih =>
    exact List.Forall₂.cons (returns value List.mem_cons_self)
      (ih (fun other member => returns other (List.mem_cons_of_mem _ member)))

theorem exists_mapM_eq_ok_iff {values : List α} :
    (∃ results, values.mapM f = .ok results) ↔
      ∀ value, value ∈ values -> ∃ result, f value = .ok result := by
  induction values with
  | nil =>
    constructor
    · exact fun _ _ member => nomatch member
    · exact fun _ => ⟨[], rfl⟩
  | cons value rest ih =>
    rw [List.forall_mem_cons, ← ih, List.mapM_cons]
    constructor
    · rintro ⟨results, same⟩
      obtain ⟨result, here, same⟩ := bind_eq_ok.mp same
      obtain ⟨others, later, _⟩ := bind_eq_ok.mp same
      exact ⟨⟨result, here⟩, others, later⟩
    · rintro ⟨⟨result, here⟩, others, later⟩
      refine ⟨result :: others, ?_⟩
      rw [here, ok_bind, later]
      rfl

theorem mem_of_mapM {values : List α} {results : List β} (run : values.mapM f = .ok results)
    {result : β} : result ∈ results ↔ ∃ value, value ∈ values ∧ f value = .ok result := by
  have related := mapM_eq_ok_iff.mp run
  clear run
  induction related with
  | nil => simp
  | cons here _ ih =>
    constructor
    · intro member
      rcases List.mem_cons.mp member with rfl | later
      · exact ⟨_, List.mem_cons_self, here⟩
      · obtain ⟨value, found, same⟩ := ih.mp later
        exact ⟨value, List.mem_cons_of_mem _ found, same⟩
    · rintro ⟨value, member, same⟩
      rcases List.mem_cons.mp member with rfl | later
      · rw [Except.ok.inj (same.symm.trans here)]
        exact List.mem_cons_self
      · exact List.mem_cons_of_mem _ (ih.mpr ⟨value, later, same⟩)

end Loops

end Foundation
end ZepGpu
