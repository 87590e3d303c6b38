import Mathlib.Data.List.Basic

namespace ZepGpu
namespace Foundation

open List

/-!
# Paths as texts

A path is a root and the names below it.  Reading a text drops empty names and
single dots, so several texts name one path; the text that is written for a
path names it again.
-/

/-- A pure path: its root and its parts, none of which is empty or a dot. -/
structure PosixPath where
  root : List Char
  parts : List (List Char)
  rooted : root = [] ∨ root = ['/'] ∨ root = ['/', '/']
  named : ∀ part, part ∈ parts -> (part ≠ [] ∧ part ≠ ['.']) ∧ '/' ∉ part
  deriving DecidableEq

namespace PosixPath

/-- Exactly two slashes in front are a root of their own; more are one. -/
def rootOf (text : List Char) : List Char :=
  match (text.takeWhile (fun c => c = '/')).length with
  | 0 => []
  | 2 => ['/', '/']
  | _ => ['/']

def partsOf (text : List Char) : List (List Char) :=
  (text.splitOn '/').filter (fun part => part ≠ [] ∧ part ≠ ['.'])

theorem rootOf_cases (text : List Char) :
    rootOf text = [] ∨ rootOf text = ['/'] ∨ rootOf text = ['/', '/'] := by
  unfold rootOf
  split
  · exact Or.inl rfl
  · exact Or.inr (Or.inr rfl)
  · exact Or.inr (Or.inl rfl)

theorem not_mem_of_mem_splitOn {c : Char} {text part : List Char} (member : part ∈ text.splitOn c) :
    c ∉ part := by
  induction text generalizing part with
  | nil =>
    rw [splitOn_nil, mem_singleton] at member
    rw [member]
    exact not_mem_nil
  | cons other rest ih =>
    rw [splitOn_cons_eq_if_modifyHead] at member
    by_cases same : (other == c) = true
    · rw [if_pos same] at member
      rcases mem_cons.mp member with rfl | later
      · exact not_mem_nil
      · exact ih later
    · rw [if_neg same] at member
      cases split : rest.splitOn c with
      | nil => exact absurd split (splitOn_ne_nil c rest)
      | cons first others =>
        rw [split, modifyHead_cons] at member
        have inside : ∀ piece, piece ∈ first :: others -> c ∉ piece := by
          intro piece found
          exact ih (split ▸ found)
        rcases mem_cons.mp member with rfl | later
        · intro found
          rcases mem_cons.mp found with rfl | deeper
          · exact same (beq_self_eq_true _)
          · exact inside first mem_cons_self deeper
        · exact inside part (mem_cons_of_mem _ later)

/-- `PurePosixPath(text)` -/
def parse (text : String) : PosixPath where
  root := rootOf text.toList
  parts := partsOf text.toList
  rooted := rootOf_cases text.toList
  named := by
    intro part member
    have kept := mem_filter.mp member
    exact ⟨of_decide_eq_true kept.2, not_mem_of_mem_splitOn kept.1⟩

def chars (path : PosixPath) : List Char :=
  if path.root = [] ∧ path.parts = [] then ['.'] else path.root ++ ['/'].intercalate path.parts

/-- `str(path)` -/
def str (path : PosixPath) : String :=
  String.ofList path.chars

theorem partsOf_slash (text : List Char) : partsOf ('/' :: text) = partsOf text := by
  rw [partsOf, splitOn_cons_eq_if_modifyHead, if_pos (beq_self_eq_true _)]
  apply filter_cons_of_neg
  simp

theorem partsOf_intercalate (path : PosixPath) :
    partsOf (['/'].intercalate path.parts) = path.parts := by
  by_cases bare : path.parts = []
  · rw [bare]
    rfl
  · have apart : ∀ part, part ∈ path.parts -> '/' ∉ part :=
      fun part member => (path.named part member).2
    rw [partsOf, splitOn_intercalate '/' apart bare]
    apply filter_eq_self.mpr
    intro part member
    exact decide_eq_true (path.named part member).1

theorem takeWhile_intercalate (path : PosixPath) :
    (['/'].intercalate path.parts).takeWhile (fun c => c = '/') = [] := by
  have named := path.named
  cases parts : path.parts with
  | nil => rfl
  | cons first rest =>
    rw [parts] at named
    obtain ⟨⟨filled, _⟩, apart⟩ := named first mem_cons_self
    cases first with
    | nil => exact absurd rfl filled
    | cons c letters =>
      have plain : c ≠ '/' := fun same => apart (same ▸ mem_cons_self)
      cases rest with
      | nil => simp [List.intercalate, plain]
      | cons second others => simp [List.intercalate, plain]

theorem rootOf_append (path : PosixPath) :
    rootOf (path.root ++ ['/'].intercalate path.parts) = path.root := by
  have slashes : ∀ c, c ∈ path.root -> decide (c = '/') = true := by
    intro c member
    rcases path.rooted with root | root | root
    · rw [root] at member
      exact absurd member not_mem_nil
    · rw [root, mem_singleton] at member
      exact decide_eq_true member
    · rw [root] at member
      simpa using member
  rw [rootOf, takeWhile_append_of_pos slashes, takeWhile_intercalate, append_nil]
  rcases path.rooted with root | root | root
  · rw [root]
    rfl
  · rw [root]
    rfl
  · rw [root]
    rfl

theorem partsOf_append (path : PosixPath) :
    partsOf (path.root ++ ['/'].intercalate path.parts) = path.parts := by
  rcases path.rooted with root | root | root
  · rw [root, nil_append, partsOf_intercalate]
  · rw [root, singleton_append, partsOf_slash, partsOf_intercalate]
  · rw [root, cons_append, singleton_append, partsOf_slash, partsOf_slash,
      partsOf_intercalate]

theorem parse_str (path : PosixPath) : parse path.str = path := by
  have same : rootOf path.chars = path.root ∧ partsOf path.chars = path.parts := by
    unfold chars
    split_ifs with here
    · rw [here.1, here.2]
      exact ⟨rfl, rfl⟩
    · exact ⟨rootOf_append path, partsOf_append path⟩
  rw [← @String.toList_ofList path.chars] at same
  exact (PosixPath.mk.injEq ..).mpr same

end PosixPath

end Foundation
end ZepGpu
