import ZepGpu.Training.RedisRelay

namespace ZepGpu
namespace Training
namespace RedisRelay

open Foundation List

/-!
# The keys of a transfer

The parts of a key between its colons tell which transfer it belongs to and
what it is for, when the identifier of the transfer has no colon itself.
Rooms and runs may have some.
-/

/-- An identifier that is one part of a key. -/
def Plain (transferId : String) : Prop :=
  ':' ∉ transferId.toList

instance (transferId : String) : Decidable (Plain transferId) :=
  inferInstanceAs (Decidable (':' ∉ transferId.toList))

def parts (key : String) : List (List Char) :=
  key.toList.splitOn ':'

theorem parts_append (front back : String) : parts (front ++ ":" ++ back) = parts front ++ parts back := by
  unfold parts
  rw [String.toList_append, String.toList_append, append_assoc]
  exact splitOn_append_cons_self front.toList back.toList

theorem parts_of_plain {text : String} (plain : Plain text) : parts text = [text.toList] :=
  splitOn_eq_singleton plain

theorem one_le_length_parts (text : String) : 1 ≤ (parts text).length :=
  length_pos_iff.mpr (splitOn_ne_nil ':' text.toList)

def relayParts : List (List Char) :=
  ["zepgpu".toList, "training".toList, "relay".toList]

theorem parts_relay (text : String) :
    parts ("zepgpu:training:relay:" ++ text) = relayParts ++ parts text :=
  parts_append "zepgpu:training:relay" text

variable {room run id : String}

theorem parts_base (plain : Plain id) :
    parts (base room run id) = relayParts ++ (parts room ++ parts run) ++ [id.toList] := by
  have split : base room run id = "zepgpu:training:relay:" ++ (room ++ ":" ++ run ++ ":" ++ id) := by
    unfold base
    simp only [String.append_assoc]
  rw [split, parts_relay, parts_append, parts_append, parts_of_plain plain]
  simp only [append_assoc]

/-- The transfer that a key belongs to, and what stands behind its identifier. -/
def keyTag (key : String) : List Char × List Char :=
  match (parts key).reverse with
  | last :: second :: third :: rest =>
    if rest.length = 2 then (last, [])
    else if last = "meta".toList ∨ last = "payload".toList then (second, last)
    else (third, last)
  | _ => ([], [])

theorem keyTag_indexKey {id : String} (plain : Plain id) : keyTag (indexKey id) = (id.toList, []) := by
  have split : parts (indexKey id) = relayParts ++ ["index".toList] ++ [id.toList] := by
    have front : indexKey id = "zepgpu:training:relay:" ++ ("index" ++ ":" ++ id) := rfl
    rw [front, parts_relay, parts_append, parts_of_plain plain, append_assoc]
    rfl
  rw [keyTag, split]
  rfl

theorem keyTag_under (plain : Plain id) {key : String} {back : List (List Char)}
    (split : parts key = parts (base room run id) ++ back) :
    ∃ rest, (parts key).reverse = back.reverse ++ id.toList :: rest ∧ 5 ≤ rest.length := by
  refine ⟨(relayParts ++ (parts room ++ parts run)).reverse, ?_, ?_⟩
  · rw [split, parts_base plain, reverse_append, reverse_append, reverse_singleton]
    rfl
  · have rooms := one_le_length_parts room
    have runs := one_le_length_parts run
    have relay : relayParts.length = 3 := rfl
    rw [length_reverse, length_append, length_append, relay]
    omega

theorem keyTag_word {room run id word : String} (plain : Plain id) (one : Plain word)
    (known : word.toList = "meta".toList ∨ word.toList = "payload".toList) :
    keyTag (base room run id ++ ":" ++ word) = (id.toList, word.toList) := by
  have split := parts_append (base room run id) word
  rw [parts_of_plain one] at split
  obtain ⟨rest, reversed, long⟩ := keyTag_under plain split
  rcases rest with _ | ⟨third, rest⟩
  · exact absurd long (by decide)
  · have other : ¬ rest.length = 2 := by
      rw [length_cons] at long
      omega
    rw [keyTag, reversed]
    exact (if_neg other).trans (if_pos known)

theorem keyTag_metaKey (plain : Plain id) :
    keyTag (metaKey (base room run id)) = (id.toList, "meta".toList) := by
  have key : metaKey (base room run id) = base room run id ++ ":" ++ "meta" := by
    rw [metaKey, String.append_assoc]
    rfl
  rw [key]
  exact keyTag_word plain (by decide) (Or.inl rfl)

theorem keyTag_payloadKey (plain : Plain id) :
    keyTag (payloadKey (base room run id)) = (id.toList, "payload".toList) := by
  have key : payloadKey (base room run id) = base room run id ++ ":" ++ "payload" := by
    rw [payloadKey, String.append_assoc]
    rfl
  rw [key]
  exact keyTag_word plain (by decide) (Or.inr rfl)

theorem keyTag_chunkKey (plain : Plain id) (index : Int) :
    keyTag (chunkKey (base room run id) index) = (id.toList, (toString index).toList) := by
  have number : Plain (toString index) := not_mem_int (by decide) (by decide) index
  have split : parts (chunkKey (base room run id) index) =
      parts (base room run id) ++ ["chunk".toList, (toString index).toList] := by
    have key : chunkKey (base room run id) index =
        base room run id ++ ":" ++ "chunk" ++ ":" ++ toString index := by
      have joined : ":chunk:" = ":" ++ "chunk" ++ ":" := rfl
      rw [chunkKey, joined]
      simp only [String.append_assoc]
    rw [key, parts_append, parts_append, parts_of_plain number, append_assoc]
    rfl
  obtain ⟨rest, reversed, long⟩ := keyTag_under plain split
  have other : ¬ rest.length = 2 := by omega
  have digits : ¬ ((toString index).toList = "meta".toList ∨ (toString index).toList = "payload".toList) := by
    have letter := not_mem_int (c := 'a') (by decide) (by decide) index
    rintro (same | same)
    · exact letter (same ▸ by decide)
    · exact letter (same ▸ by decide)
  rcases rest with _ | ⟨fourth, rest⟩
  · exact absurd long (by decide)
  · rw [keyTag, reversed]
    have more : ¬ (fourth :: rest).length = 2 := other
    exact (if_neg more).trans (if_neg digits)

/-! ## Keys for different purposes -/

section Kinds

variable {room run id room' run' id' : String}

theorem key_ne {left right : String} {leftTag rightTag : List Char × List Char}
    (isLeft : keyTag left = leftTag) (isRight : keyTag right = rightTag)
    (kinds : leftTag.2 ≠ rightTag.2) : left ≠ right := by
  rintro rfl
  exact kinds (congrArg Prod.snd (isLeft.symm.trans isRight))

theorem number_ne {text : String} (letter : 'a' ∈ text.toList) (index : Int) :
    (toString index).toList ≠ text.toList := by
  intro same
  exact not_mem_int (by decide) (by decide) index (same ▸ letter)

theorem indexKey_ne_metaKey (plain : Plain id) (plain' : Plain id') :
    indexKey id ≠ metaKey (base room' run' id') :=
  key_ne (keyTag_indexKey plain) (keyTag_metaKey plain') (by decide : [] ≠ "meta".toList)

theorem payloadKey_ne_indexKey (plain : Plain id) (plain' : Plain id') :
    payloadKey (base room run id) ≠ indexKey id' :=
  key_ne (keyTag_payloadKey plain) (keyTag_indexKey plain') (by decide : "payload".toList ≠ [])

theorem payloadKey_ne_metaKey (plain : Plain id) (plain' : Plain id') :
    payloadKey (base room run id) ≠ metaKey (base room' run' id') :=
  key_ne (keyTag_payloadKey plain) (keyTag_metaKey plain')
    (by decide : "payload".toList ≠ "meta".toList)

theorem chunkKey_ne_metaKey (plain : Plain id) (plain' : Plain id') (index : Int) :
    chunkKey (base room run id) index ≠ metaKey (base room' run' id') :=
  key_ne (keyTag_chunkKey plain index) (keyTag_metaKey plain') (number_ne (by decide) index)

theorem payloadKey_ne_chunkKey (plain : Plain id) (plain' : Plain id') (index : Int) :
    payloadKey (base room run id) ≠ chunkKey (base room' run' id') index :=
  key_ne (keyTag_payloadKey plain) (keyTag_chunkKey plain' index) (number_ne (by decide) index).symm

theorem chunkKey_ne_indexKey (plain : Plain id) (plain' : Plain id') (index : Int) :
    chunkKey (base room run id) index ≠ indexKey id' := by
  apply key_ne (keyTag_chunkKey plain index) (keyTag_indexKey plain')
  cases index with
  | ofNat n =>
    intro empty
    have text : (Nat.repr n).toList = [] := empty
    have positive : 0 < (Nat.toDigits 10 n).length := Nat.length_toDigits_pos
    have whole : (Nat.repr n).toList = Nat.toDigits 10 n := by simp [Nat.repr]
    rw [← whole, text] at positive
    exact absurd positive (by decide)
  | negSucc n =>
    change (toString (Int.negSucc n)).toList ≠ []
    rw [toString_negSucc]
    exact cons_ne_nil _ _

theorem chunkKey_ne_chunkKey (plain : Plain id) {index other : Int} (different : other ≠ index) :
    chunkKey (base room run id) other ≠ chunkKey (base room' run' id) index :=
  key_ne (keyTag_chunkKey plain other) (keyTag_chunkKey plain index)
    (fun same => different (toString_int_injective same))

end Kinds

end RedisRelay
end Training
end ZepGpu
