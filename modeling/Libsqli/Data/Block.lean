import Mathlib.Data.List.Basic

namespace Libsqli.Data.Block

/-! Arrays that are written within their bounds or not at all. -/

variable {Word : Type*} {block words front back after : List Word}

/-- One word at an index; nothing stands for a write outside the array. -/
def store (block : List Word) (index : Nat) (word : Word) :
    Option (List Word) :=
  if index < block.length then some (block.set index word) else none

/-- Words copied over the start of the array. -/
def storeAll (block words : List Word) : Option (List Word) :=
  if words.length ≤ block.length then some (words ++ block.drop words.length)
  else none

theorem store_append (front back : List Word) (old word : Word) :
    store (front ++ old :: back) front.length word =
      some (front ++ word :: back) := by
  simp [store]

theorem store_eq (hindex : index < block.length) (word : Word) :
    store block index word = some (block.set index word) :=
  if_pos hindex

theorem storeAll_eq (hroom : words.length ≤ block.length) :
    storeAll block words = some (words ++ block.drop words.length) :=
  if_pos hroom

theorem length_storeAll (hroom : words.length ≤ block.length) :
    (words ++ block.drop words.length).length = block.length := by
  simp only [List.length_append, List.length_drop]
  omega

end Libsqli.Data.Block
